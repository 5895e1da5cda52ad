import ContractAudit.Text.CodeRange

/-!
# Blank characters

Blanks separate the words of a source and are trimmed from both ends of a text. Besides the ASCII blanks these are the
information separators, the next-line control, and the space and line separators of every script.
-/

namespace ContractAudit.Text

/-- Blanks as inclusive ranges of code points. -/
def blankRanges : List (Nat × Nat) :=
  [(9, 13), (28, 32), (133, 133), (160, 160), (5760, 5760), (8192, 8202), (8232, 8233), (8239, 8239), (8287, 8287),
   (12288, 12288)]

def isBlank (c : Char) : Bool := inRanges blankRanges c.toNat

def trimStart (text : List Char) : List Char := text.dropWhile isBlank

def trimEnd (text : List Char) : List Char := (text.reverse.dropWhile isBlank).reverse

def trim (text : List Char) : List Char := trimEnd (trimStart text)

def strip (text : String) : String := String.ofList (trim text.toList)

/-- The words of a text, with blanks between them. -/
def words (text : String) : List String :=
  ((text.toList.splitOnP isBlank).filter (!·.isEmpty)).map String.ofList

end ContractAudit.Text
