import ContractAudit.Finding

/-!
# Outcomes

What one analyzer reported about one source: vulnerabilities, advice that is no vulnerability, and the fault that
stopped it, if one did.
-/

namespace ContractAudit

structure Outcome where
  analyzer : String
  vulnerabilities : List Finding := []
  issues : List Finding := []
  /-- The text of the fault, empty when there was none. -/
  error : String := ""

namespace Outcome

/-- The outcome of an analyzer that was stopped by a fault. -/
def failed (analyzer error : String) : Outcome := { analyzer, error }

def vulnerable (outcome : Outcome) : Bool := !outcome.vulnerabilities.isEmpty

def severity? (outcome : Outcome) : Option Severity :=
  Severity.worst? (outcome.vulnerabilities.map (·.severity))

/-- Whether a fault stopped the analyzer. -/
def faulted (outcome : Outcome) : Bool := !outcome.error.isEmpty

def toEntries (outcome : Outcome) : List (String × Value) :=
  [("analyzer", .str outcome.analyzer), ("vulnerable", .bool outcome.vulnerable),
   ("vulnerabilities", .list (outcome.vulnerabilities.map (·.toValue))),
   ("severity", .str ((outcome.severity?.map (·.label)).getD "NONE")),
   ("issues", .list (outcome.issues.map (·.toValue)))]
  ++ if outcome.faulted then [("error", .str outcome.error)] else []

def toValue (outcome : Outcome) : Value := .object outcome.toEntries

end Outcome

end ContractAudit
