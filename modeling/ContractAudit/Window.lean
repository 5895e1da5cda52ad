import ContractAudit.Fault
import ContractAudit.Text.Lines
import ContractAudit.Text.Slice
import ContractAudit.Value

/-!
# Context windows

Some rules look at the lines around a line. How many is a setting and therefore untyped; a window that is not an
integer is a fault, but only once it is used.
-/

namespace ContractAudit.Window

open Text

/-- The lines from an index on: as many as the window says, and `extra` more. -/
def after (window : Value) (extra : Nat) (lines : List Line) (index : Nat) : Except Fault (List Line) :=
  match window with
  | .float _ => .error .windowBound
  | window =>
    match window.integer? with
    | some size => .ok (slice lines index (index + size + extra))
    | none => .error (.windowOperand "+" window.typeName)

/-- The lines up to an index, as many before it as the window says. -/
def before (window : Value) (lines : List Line) (index : Nat) : Except Fault (List Line) :=
  match window with
  | .float size =>
    if Float.ofNat index - size > 0 then .error .windowBound else .ok (slice lines 0 (index + 1))
  | window =>
    match window.integer? with
    | some size => .ok (slice lines (max 0 (index - size)) (index + 1))
    | none => .error (.windowOperand "-" window.typeName)

end ContractAudit.Window
