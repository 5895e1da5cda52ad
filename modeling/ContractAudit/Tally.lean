import ContractAudit.Registry

/-!
# Tallies

A tally merges the findings of the analyzers with those of a language model: repeated findings are reported once, the
most severe come first, and findings are counted by severity and by category.
-/

namespace ContractAudit

structure Tally where
  vulnerabilities : List Finding
  severityCounts : List (String × Int)
  categoryCounts : List (Value × Int)
  optimizations : List Finding := []

/-- A member of a submitted list: what was asked for, or a value of some other type. -/
inductive Submitted (α : Type) where
  | proper (item : α)
  | foreign (value : Value)

inductive TallyError where
  | notOutcome (typeName : String)
  | notFinding (list typeName : String)
  | unhashableCategory
deriving DecidableEq, Repr

def TallyError.message : TallyError → String
  | notOutcome typeName => "Expected AnalysisOutcome, got " ++ typeName
  | notFinding list typeName => "Expected Finding in " ++ list ++ " findings, got " ++ typeName
  | unhashableCategory => "unhashable type"

namespace Tally

/-- The proper members of a list, or the error for its first foreign one. -/
def proper {α : Type} (error : String → TallyError) (items : List (Submitted α)) : Except TallyError (List α) :=
  items.mapM fun
    | .proper item => .ok item
    | .foreign value => .error (error value.typeName)

/-- The findings whose key none of the earlier ones has. -/
def dropRepeated : (seen : List String) → List Finding → List Finding
  | _, [] => []
  | seen, finding :: rest =>
    if seen.contains finding.key then dropRepeated seen rest
    else finding :: dropRepeated (finding.key :: seen) rest

/-- The first finding with each key. -/
def unique (findings : List Finding) : List Finding := dropRepeated [] findings

/-- The most severe findings first; equally severe ones keep their order. -/
def ranked (findings : List Finding) : List Finding :=
  findings.mergeSort fun first second ↦ first.severity.rank ≤ second.severity.rank

/-- How many findings have each level, with all levels listed. -/
def countBySeverity (findings : List Finding) : List (String × Int) :=
  Severity.all.map fun severity ↦ (severity.label, (findings.countP (·.severity == severity) : Nat))

/-- Counts one more of a category. -/
def addCategory (counts : List (Value × Int)) (category : Value) : List (Value × Int) :=
  if counts.any (·.1.sameKey category) then
    counts.map fun entry ↦ if entry.1.sameKey category then (entry.1, entry.2 + 1) else entry
  else counts ++ [(category, 1)]

/-- How many findings each category has, in the order in which the categories first came. -/
def countByCategory (findings : List Finding) : Except TallyError (List (Value × Int)) :=
  if findings.all (·.category.hashable) then
    .ok ((findings.map (·.category)).foldl addCategory [])
  else .error .unhashableCategory

def ofMerged (findings : List Finding) : Except TallyError Tally := do
  let vulnerabilities := ranked (unique findings)
  let categoryCounts ← countByCategory vulnerabilities
  pure { vulnerabilities, severityCounts := countBySeverity vulnerabilities, categoryCounts }

def ofFindings (static model : List (Submitted Finding)) : Except TallyError Tally := do
  let static ← proper (.notFinding "static") static
  let model ← proper (.notFinding "AI") model
  ofMerged (static ++ model.map (·.fromModel))

def ofOutcomes (outcomes : List (Submitted Outcome)) (model : List (Submitted Finding)) :
    Except TallyError Tally := do
  let outcomes ← proper .notOutcome outcomes
  let tally ← ofFindings ((Outcome.reported outcomes).map .proper) model
  pure { tally with optimizations := ranked (unique (Outcome.advised outcomes)) }

def total (tally : Tally) : Nat := tally.vulnerabilities.length

def toEntries (tally : Tally) : List (String × Value) :=
  [("vulnerabilities", .list (tally.vulnerabilities.map (·.toValue))),
   ("severityCounts", .object (tally.severityCounts.map fun entry ↦ (entry.1, .int entry.2))),
   ("categoryCounts", .map (tally.categoryCounts.map fun entry ↦ (entry.1, .int entry.2))),
   ("optimizations", .list (tally.optimizations.map (·.toValue)))]

end Tally

end ContractAudit
