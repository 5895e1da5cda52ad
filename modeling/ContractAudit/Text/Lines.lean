/-!
# Lines of a text

A text is a list of lines joined by the line feed alone. Splitting and joining are inverse to each other, so a line
index names the same place in the text and in its lines.
-/

namespace ContractAudit.Text

/-- A line, without the line feed that ends it. -/
abbrev Line := List Char

/-- The lines of a text; a text without line feeds is one line. -/
def splitLines : List Char → List Line
  | [] => [[]]
  | c :: rest =>
    match splitLines rest with
    | [] => [[c]]
    | line :: lines => if c = '\n' then [] :: line :: lines else (c :: line) :: lines

def joinLines : List Line → List Char
  | [] => []
  | [line] => line
  | line :: next :: lines => line ++ '\n' :: joinLines (next :: lines)

theorem splitLines_ne_nil (text : List Char) : splitLines text ≠ [] := by
  cases text with
  | nil => simp [splitLines]
  | cons c rest =>
    rw [splitLines]
    split
    · simp
    · split <;> simp

@[simp] theorem joinLines_cons_cons (c : Char) (line : Line) (lines : List Line) :
    joinLines ((c :: line) :: lines) = c :: joinLines (line :: lines) := by
  cases lines <;> simp [joinLines]

/-- Joining the lines of a text gives the text back. -/
@[simp] theorem joinLines_splitLines (text : List Char) : joinLines (splitLines text) = text := by
  induction text with
  | nil => rfl
  | cons c rest ih =>
    rw [splitLines]
    split
    · exact absurd ‹_› (splitLines_ne_nil rest)
    · next line lines heq =>
      rw [heq] at ih
      split
      · next newline => subst newline; simp [joinLines, ih]
      · simp [ih]

/-- There is one line more than there are line feeds. -/
theorem length_splitLines (text : List Char) : (splitLines text).length = text.count '\n' + 1 := by
  induction text with
  | nil => rfl
  | cons c rest ih =>
    rw [splitLines]
    split
    · exact absurd ‹_› (splitLines_ne_nil rest)
    · next line lines heq =>
      rw [heq] at ih
      by_cases newline : c = '\n'
      · subst newline; simp_all
      · simp_all

/-- The one-based number of the line that holds the place after the given number of characters. -/
def lineNumberAt (offset : Nat) (text : List Char) : Nat := (text.take offset).count '\n' + 1

end ContractAudit.Text
