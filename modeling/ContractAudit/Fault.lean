/-!
# Faults of analyzers

Why an analyzer could not judge a source. The registry turns a fault into an outcome that carries its text.
-/

namespace ContractAudit

abbrev FaultKind := { name : String // name ≠ "" }

inductive Fault where
  /-- The source is not a text but a value of the named type. -/
  | notText (typeName : String)
  /-- A window of the named type was added to, or subtracted from, a line index. -/
  | windowOperand (operator : String) (typeName : String)
  /-- A window put a bound of a slice between two lines. -/
  | windowBound
  /-- A version number has too many digits. -/
  | longNumeral (digits : Nat)
  /-- An analyzer of another make stopped with a fault of some kind, which may have an empty message. -/
  | stopped (message : String) (kind : FaultKind := ⟨"RuntimeError", by decide⟩)
deriving DecidableEq, Repr

namespace Fault

/-- The kind of a fault, which stands in for a missing message. -/
def kind : Fault → String
  | notText _ => "AttributeError"
  | windowOperand _ _ => "TypeError"
  | windowBound => "TypeError"
  | longNumeral _ => "ValueError"
  | stopped _ kind => kind.val

def message : Fault → String
  | notText typeName => "'" ++ typeName ++ "' object has no attribute 'split'"
  | windowOperand operator typeName =>
    "unsupported operand type(s) for " ++ operator ++ ": 'int' and '" ++ typeName ++ "'"
  | windowBound => "slice indices must be integers or None or have an __index__ method"
  | longNumeral digits =>
    "Exceeds the limit (4300 digits) for integer string conversion: value has " ++ toString digits
      ++ " digits; use sys.set_int_max_str_digits() to increase the limit"
  | stopped message _ => message

/-- The text under which a fault is recorded; it is never empty. -/
def description (fault : Fault) : String := if fault.message.isEmpty then fault.kind else fault.message

end Fault

end ContractAudit
