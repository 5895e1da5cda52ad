import ContractAudit.Scope
import Mathlib.Data.List.Induction

/-!
# Open braces

The innermost open brace before a place is found by a scan backwards with one counter. A reader who goes forwards keeps
a stack instead: it grows with every opening brace, and a closing brace takes the last one away. Both find the same
brace, whatever the braces of the text are. Started at a depth, the scan finds the brace that lies that deep in the
stack, which is how the counter and the stack are tied together.
-/

namespace ContractAudit.Scope

open Text

/-! ## Reading forwards -/

/-- The places of the open braces after one more character, the innermost first. A closing brace that closes nothing
is passed over. -/
def readBrace {α : Type} (place : α) (stack : List α) (c : Char) : List α :=
  if c = opening then place :: stack else if c = closing then stack.tail else stack

/-- The line numbers of the braces that are open after the lines, the innermost first. The arguments are the number of
the first line and the braces that are open before it. -/
def openLines : (number : Nat) → (stack : List Nat) → List Line → List Nat
  | _, stack, [] => stack
  | number, stack, line :: later => openLines (number + 1) (line.foldl (readBrace number) stack) later

/-- The lines from the first to the one at an index, of which only the part before the column is left when one is given.
An index outside of the lines stands for the nearest one inside. -/
def linesUpTo (lines : List Line) (index : Int) (column : Option Int) : List Line :=
  let last := (max 0 (min index (lines.length - 1))).toNat
  (lines.take (last + 1)).modify last fun line ↦ column.elim line (sliceTo line)

/-! ## Reading backwards -/

section

variable {α : Type} (depth : Nat) (place : α) (before : List (α × Char))

theorem openBrace?_closing : openBrace? depth ((place, closing) :: before) = openBrace? (depth + 1) before := rfl

theorem openBrace?_opening_succ : openBrace? (depth + 1) ((place, opening) :: before) = openBrace? depth before := rfl

theorem openBrace?_of_ne {c : Char} (notOpening : c ≠ opening) (notClosing : c ≠ closing) :
    openBrace? depth ((place, c) :: before) = openBrace? depth before := by
  cases depth with
  | zero => rw [openBrace?, if_neg notClosing, if_neg notOpening]
  | succ depth => rw [openBrace?, if_neg notClosing, if_neg notOpening]

end

/-- A scan backwards that starts at a depth finds the brace that lies that deep in the stack. -/
theorem openBrace?_reverse {α : Type} (text : List (α × Char)) (depth : Nat) :
    openBrace? depth text.reverse = (text.foldl (fun stack entry ↦ readBrace entry.1 stack entry.2) [])[depth]? := by
  induction text using List.reverseRecOn generalizing depth with
  | nil => rfl
  | append_singleton text entry ih =>
    obtain ⟨place, c⟩ := entry
    rw [List.reverse_concat, List.foldl_append, List.foldl_cons, List.foldl_nil, readBrace]
    by_cases hopening : c = opening
    · rw [if_pos hopening, hopening]
      cases depth with
      | zero => rfl
      | succ depth => rw [openBrace?_opening_succ, ih depth, List.getElem?_cons_succ]
    · rw [if_neg hopening]
      by_cases hclosing : c = closing
      · rw [if_pos hclosing, hclosing, openBrace?_closing, ih (depth + 1), List.getElem?_tail]
      · rw [if_neg hclosing, openBrace?_of_ne depth place _ hopening hclosing, ih depth]

/-! ## Both ways -/

/-- Reading line by line is reading the characters of all lines. -/
theorem openLines_eq_foldl (number : Nat) (stack : List Nat) (lines : List Line) :
    openLines number stack lines =
      ((lines.zipIdx number).map fun (line, index) ↦ line.map fun c ↦ (index, c)).flatten.foldl
        (fun stack entry ↦ readBrace entry.1 stack entry.2) stack := by
  induction lines generalizing number stack with
  | nil => rfl
  | cons line later ih =>
    rw [openLines, ih, List.zipIdx_cons, List.map_cons, List.flatten_cons, List.foldl_append, List.foldl_map]

theorem clampIndex_eq (length : Nat) (index : Int) :
    clampIndex length index = (max 0 (min index (length - 1))).toNat := by
  unfold clampIndex
  omega

theorem take_succ_modify (lines : List Line) (last : Nat) (cut : Line → Line) :
    (lines.take (last + 1)).modify last cut = lines.take last ++ lines[last]?.toList.map cut := by
  induction lines generalizing last with
  | nil => simp
  | cons line lines ih =>
    cases last with
    | zero => rfl
    | succ last => simp [ih last]

/-- The text before a place is cut in the same way for the scan and for the stack. -/
theorem textBefore_eq_linesUpTo (lines : List Line) (index : Int) (column : Option Int) :
    textBefore lines (clampIndex lines.length index) column = linesUpTo lines index column := by
  unfold linesUpTo
  rw [← clampIndex_eq]
  cases column with
  | none => exact (List.modify_id _ _).symm
  | some column =>
    calc
      _ = lines.take (clampIndex lines.length index) ++
          lines[clampIndex lines.length index]?.toList.map (sliceTo · column) := by rw [textBefore, List.head?_drop]
      _ = _ := (take_succ_modify lines _ (sliceTo · column)).symm

/-- The line of the innermost brace that is open before a place is the one on top of the stack of a reader who goes
forwards to that place. -/
theorem enclosingBlock_eq_top (lines : List Line) (index : Int) (column : Option Int) :
    enclosingBlock? lines index column = (openLines 0 [] (linesUpTo lines index column)).head? := by
  rw [enclosingBlock?, textBefore_eq_linesUpTo, openBrace?_reverse, openLines_eq_foldl, List.head?_eq_getElem?]
  rfl

end ContractAudit.Scope
