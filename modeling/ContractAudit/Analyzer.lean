import ContractAudit.Fault
import ContractAudit.Outcome
import ContractAudit.Sheet
import ContractAudit.Text.LetterCase

/-!
# Analyzers

An analyzer judges sources in the languages that it knows. Its verdict depends on nothing but the source.
-/

namespace ContractAudit

structure Analyzer where
  /-- The kind of analyzer, as shown in descriptions. -/
  kind : String
  name : String
  languages : List String := ["solidity"]
  /-- The windows that it was made with. -/
  windows : List (String × Value) := []
  check : Value → Except Fault Outcome

namespace Analyzer

/-- Languages are recognised whatever the case of their name. -/
def supports (analyzer : Analyzer) (language : String) : Bool := analyzer.languages.contains (Text.lower language)

def description (analyzer : Analyzer) : String :=
  "<" ++ analyzer.kind ++ " name=" ++ (Value.str analyzer.name).quoted ++ ">"

end Analyzer

/-- What a rule reports: vulnerabilities and issues. -/
structure Verdict where
  vulnerabilities : List Finding := []
  issues : List Finding := []

abbrev Rule := Sheet → Except Fault Verdict

namespace Analyzer

/-- The analyzer that applies one rule; a source that is no text is a fault. -/
def ofRule (kind name : String) (windows : List (String × Value)) (rule : Rule) : Analyzer where
  kind := kind
  name := name
  windows := windows
  check
    | .str source => do
      let verdict ← rule (.ofSource source.toList)
      pure { analyzer := name, vulnerabilities := verdict.vulnerabilities, issues := verdict.issues }
    | other => .error (.notText other.typeName)

end Analyzer

end ContractAudit
