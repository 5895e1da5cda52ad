import ContractAudit.Catalogue

/-!
# Registries

A registry is an ordered list of analyzers that run over one source. A fault of one analyzer is isolated: it becomes an
outcome without findings that carries the text of the fault, and the other analyzers still run.
-/

namespace ContractAudit

abbrev Registry := List Analyzer

/-- The language of a source: the given one in lower case, or the default when none is given. -/
def languageOr (language : String) : String :=
  Text.lower (if language.isEmpty then "solidity" else language)

/-- The language that an untyped value names: nothing stands for the default, and what is no text names none. -/
def languageName? : Value → Option String
  | .str name => some name
  | other => if other.truthy then none else some ""

inductive WorkerFault where
  | notPositive
  | notNumber
deriving DecidableEq, Repr

/-- Whether analyzers run side by side, and with how many workers. -/
structure Schedule where
  parallel : Bool := false
  workers : Value := .null

/-- The number of workers has to be positive when there is more than one analyzer to run side by side. -/
def Schedule.check (schedule : Schedule) (analyzers : Nat) : Except WorkerFault Unit :=
  if !schedule.parallel || analyzers ≤ 1 then .ok ()
  else match schedule.workers with
    | .null => .ok ()
    | .float x => if x ≤ 0 then .error .notPositive else .ok ()
    | workers => match workers.integer? with
      | some n => if n ≤ 0 then .error .notPositive else .ok ()
      | none => .error .notNumber

namespace Registry

def default : Registry := BuiltIn.all.map BuiltIn.default

/-- The registry, or the default one when it is empty. -/
def orDefault (registry : Registry) : Registry := if registry.isEmpty then default else registry

def names (registry : Registry) : List String := registry.map (·.name)

/-- Whether some analyzer knows a language. -/
def supports (registry : Registry) (language : String) : Bool := registry.any (·.supports language)

/-- The outcome of one analyzer. -/
def runOne (source : Value) (analyzer : Analyzer) : Outcome :=
  match analyzer.check source with
  | .ok outcome => outcome
  | .error fault => .failed analyzer.name fault.description

/-- The outcomes of all analyzers, in the order of the registry. -/
def run (registry : Registry) (source : Value) : List Outcome := registry.map (runOne source)

/-- Runs the analyzers as scheduled; the outcomes do not depend on the schedule. -/
def runScheduled (registry : Registry) (schedule : Schedule) (source : Value) :
    Except WorkerFault (List Outcome) := do
  schedule.check registry.length
  pure (registry.run source)

end Registry

namespace Outcome

/-- The vulnerabilities of all outcomes, marked with their analyzers. -/
def reported (outcomes : List Outcome) : List Finding :=
  outcomes.flatMap fun outcome ↦ outcome.vulnerabilities.map (·.reportedBy outcome.analyzer)

/-- The issues of all outcomes, marked with their analyzers. -/
def advised (outcomes : List Outcome) : List Finding :=
  outcomes.flatMap fun outcome ↦ outcome.issues.map (·.reportedBy outcome.analyzer)

end Outcome

/-- The vulnerabilities that a registry finds in a source; none in a language that no analyzer knows. -/
def Registry.findings (registry : Registry) (source : Value) (language : String) : List Finding :=
  let registry := registry.orDefault
  if registry.supports (languageOr language) then Outcome.reported (registry.run source) else []

end ContractAudit
