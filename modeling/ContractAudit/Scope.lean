import ContractAudit.Pattern.Vocabulary
import ContractAudit.Text.Lines
import ContractAudit.Text.Slice

/-!
# Scopes

The extent of functions and blocks, found by counting braces line by line. Braces in comments and string literals are
counted like any other.
-/

namespace ContractAudit.Scope

open Text

def opening : Char := '\x7b'

def closing : Char := '\x7d'

/-- How much deeper a line ends than it starts. -/
def depthChange (line : Line) : Int := (line.count opening : Int) - line.count closing

/-- The first line at which the braces balance after one was opened. The arguments say how deep the scan is, whether a
brace was opened already, and the index of the next line. -/
def closingLine? : (depth : Int) → (opened : Bool) → (index : Nat) → List Line → Option Nat
  | _, _, _, [] => none
  | depth, opened, index, line :: rest =>
    let depth := depth + depthChange line
    let opened := opened || line.contains opening
    if opened && depth ≤ 0 then some index else closingLine? depth opened (index + 1) rest

/-- The nearest valid index of a nonempty list of the given length. -/
def clampIndex (length : Nat) (index : Int) : Nat := min index.toNat (length - 1)

/-- The index of the line that closes the block opened at or after a line, or the last index when none does. -/
def blockEnd (lines : List Line) (start : Int) : Nat :=
  let first := clampIndex lines.length start
  (closingLine? 0 false first (lines.drop first)).getD (lines.length - 1)

/-- The start of a function or of something like one. -/
def functionHeader : Pattern :=
  .edge ++ .lit "function" ++ .gap ++ .word
    <|> .edge ++ .lit "modifier" ++ .gap ++ .word
    <|> .edge ++ .words ["constructor", "fallback", "receive"] ++ .blanks ++ .lit "("

/-- The index of the last item that satisfies a test. -/
def lastIndex? {α : Type} (test : α → Bool) (items : List α) : Option Nat :=
  (items.reverse.findIdx? test).map (items.length - 1 - ·)

/-- The index of the nearest function header at or above a line. -/
def enclosingFunction? (lines : List Line) (index : Int) : Option Nat :=
  if index < 0 then none else lastIndex? functionHeader.occursIn (lines.take (index.toNat + 1))

/-- The place of the innermost brace that is still open, in a text that is read backwards. Each character comes with
its place, such as the index of its line, and the depth counts the blocks that were closed further on. -/
def openBrace? {α : Type} : (depth : Nat) → List (α × Char) → Option α
  | _, [] => none
  | depth, (place, c) :: before =>
    if c = closing then openBrace? (depth + 1) before
    else if c = opening then
      match depth with
      | 0 => some place
      | depth + 1 => openBrace? depth before
    else openBrace? depth before

def indexed (lines : List Line) : List (Nat × Char) :=
  (lines.zipIdx.map fun (line, index) ↦ line.map fun c ↦ (index, c)).flatten

/-- The lines up to an index, the last one cut at a column when one is given. -/
def textBefore (lines : List Line) (index : Nat) (column : Option Int) : List Line :=
  match column with
  | none => lines.take (index + 1)
  | some column => lines.take index ++ (lines.drop index).head?.toList.map (sliceTo · column)

/-- The index of the line with the innermost brace that is open before a column of a line, or at its end. -/
def enclosingBlock? (lines : List Line) (index : Int) (column : Option Int) : Option Nat :=
  openBrace? 0 (indexed (textBefore lines (clampIndex lines.length index) column)).reverse

end ContractAudit.Scope
