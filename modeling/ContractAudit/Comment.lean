import ContractAudit.Text.Lines

/-!
# Comments

The rules look at code, not at comments. Block comments are blanked first, each leaving its line feeds behind, and then
everything from two slashes to the end of a line. Line indexes into the result are line indexes into the source. A
block comment that is never closed is no comment, and block comments are looked for inside line comments too.
-/

namespace ContractAudit.Comment

/-- Whether a block comment that was opened before this text is closed in it. -/
def closes : List Char → Bool
  | '*' :: '/' :: _ => true
  | _ :: rest => closes rest
  | [] => false

/-- Replaces block comments by their line feeds. The flag says whether the text starts inside one. -/
def blankBlocks : (inside : Bool) → List Char → List Char
  | false, '/' :: '*' :: rest =>
    if closes rest then blankBlocks true rest else '/' :: blankBlocks false ('*' :: rest)
  | true, '*' :: '/' :: rest => blankBlocks false rest
  | false, c :: rest => c :: blankBlocks false rest
  | true, c :: rest => if c = '\n' then '\n' :: blankBlocks true rest else blankBlocks true rest
  | _, [] => []

/-- Removes line comments. The flag says whether the text starts inside one. -/
def dropLineComments : (inside : Bool) → List Char → List Char
  | false, '/' :: '/' :: rest => dropLineComments true rest
  | true, '\n' :: rest => '\n' :: dropLineComments false rest
  | false, c :: rest => c :: dropLineComments false rest
  | true, _ :: rest => dropLineComments true rest
  | _, [] => []

/-- The source without its comments, line by line. -/
def strip (source : List Char) : List Char := dropLineComments false (blankBlocks false source)

end ContractAudit.Comment
