import ContractAudit.Text.Blank
import ContractAudit.Text.LetterCase
import ContractAudit.Value

/-!
# Severity

How urgent a finding is, on four levels. The most severe level has the least rank.
-/

namespace ContractAudit

inductive Severity where
  | critical
  | high
  | medium
  | low
deriving DecidableEq, Repr, Inhabited

namespace Severity

def all : List Severity := [critical, high, medium, low]

def rank : Severity → Nat
  | critical => 0
  | high => 1
  | medium => 2
  | low => 3

def label : Severity → String
  | critical => "CRITICAL"
  | high => "HIGH"
  | medium => "MEDIUM"
  | low => "LOW"

theorem mem_all (severity : Severity) : severity ∈ all := by cases severity <;> decide

theorem rank_injective {first second : Severity} (h : first.rank = second.rank) : first = second := by
  cases first <;> cases second <;> first | rfl | cases h

def ofLabel? (label : String) : Option Severity := all.find? (·.label == label)

@[simp] theorem ofLabel?_label (severity : Severity) : ofLabel? severity.label = some severity := by
  cases severity <;> decide

/-- The level that a text names, whatever its case and the blanks around it. -/
def ofName? (name : String) : Option Severity := ofLabel? (Text.upper (Text.strip name))

def ofValue? : Value → Option Severity
  | .str name => ofName? name
  | _ => none

@[simp] theorem ofValue?_label (severity : Severity) : ofValue? (.str severity.label) = some severity := by
  cases severity <;> decide

/-- The most severe of the given levels. -/
def worst? (severities : List Severity) : Option Severity := all.find? severities.contains

end Severity

end ContractAudit
