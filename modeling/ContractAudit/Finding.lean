import ContractAudit.Severity

/-!
# Findings

A finding is one detected problem, with the place it points at and the advice that goes with it. Its texts are untyped
values, because findings are also built from what a language model answered; null stands for an absent one. Findings
are made by `Finding.make`, which refuses unusable parts.
-/

namespace ContractAudit

/-- Who reported a finding. -/
inductive Origin where
  | static
  | ai
deriving DecidableEq, Repr, Inhabited

namespace Origin

def label : Origin → String
  | static => "static"
  | ai => "ai"

def ofValue? : Value → Option Origin
  | .str "static" => some static
  | .str "ai" => some ai
  | _ => none

end Origin

/-- Lines are numbered from one. -/
abbrev LineNumber := { number : Nat // 0 < number }

namespace LineNumber

/-- The number of the line with the given index. -/
def ofIndex (index : Nat) : LineNumber := ⟨index + 1, index.succ_pos⟩

/-- The line number that an untyped value is: a positive integer, and not a truth value. -/
def ofValue? : Value → Option LineNumber
  | .int (.ofNat (n + 1)) => some ⟨n + 1, n.succ_pos⟩
  | _ => none

end LineNumber

structure Finding where
  category : Value
  severity : Severity
  description : Value
  recommendation : Value := .str ""
  line : Option LineNumber := none
  snippet : Value := .null
  origin : Origin := .static
  analyzer : Value := .null
  location : Value := .null
  details : Value := .null
  savings : Value := .null
  named : category.truthy = true

inductive FindingError where
  | noCategory
  | unknownSeverity (given : Value)
  | unknownOrigin (given : Value)
  | badLine (given : Value)

namespace FindingError

def message : FindingError → String
  | noCategory => "Finding requires a type"
  | unknownSeverity given => "Unknown severity: " ++ given.quoted
  | unknownOrigin given => "Unknown finding source: " ++ given.quoted
  | badLine given => "Line must be a positive integer, got " ++ given.quoted

end FindingError

/-- The parts of a finding before any of them has been checked. -/
structure FindingParts where
  category : Value
  severity : Value
  description : Value
  recommendation : Value := .str ""
  line : Value := .null
  snippet : Value := .null
  origin : Value := .str "static"
  analyzer : Value := .null
  location : Value := .null
  details : Value := .null
  savings : Value := .null

namespace Finding

/-- Checks the category, the severity, the origin and the line, in this order. -/
def make (parts : FindingParts) : Except FindingError Finding :=
  if named : parts.category.truthy = true then
    match Severity.ofValue? parts.severity with
    | none => .error (.unknownSeverity parts.severity)
    | some severity =>
      match Origin.ofValue? parts.origin with
      | none => .error (.unknownOrigin parts.origin)
      | some origin =>
        let finding : Finding :=
          { category := parts.category, severity, description := parts.description,
            recommendation := parts.recommendation, snippet := parts.snippet, origin,
            analyzer := parts.analyzer, location := parts.location, details := parts.details,
            savings := parts.savings, named }
        match parts.line with
        | .null => .ok finding
        | line =>
          match LineNumber.ofValue? line with
          | none => .error (.badLine line)
          | some number => .ok { finding with line := some number }
  else .error .noCategory

/-- The line as text, or the word that stands for no line. A number of more than 4300 digits is not written out by the
program. No source has so many lines and no integer of an answer so many digits, so the bound is left out. -/
def place (finding : Finding) : String :=
  match finding.line with
  | some number => String.ofList (Nat.toDigits 10 number.val)
  | none => "general"

/-- Findings with the same key are reported once. -/
def key (finding : Finding) : String :=
  finding.category.text ++ "-" ++ finding.place ++ "-" ++ finding.description.text

def reportedBy (finding : Finding) (analyzer : String) : Finding :=
  { finding with origin := .static, analyzer := .str analyzer }

/-- The finding as reported by the language model. -/
def fromModel (finding : Finding) : Finding := { finding with origin := .ai }

/-- The finding as a mapping; absent parts are left out. -/
def toEntries (finding : Finding) : List (String × Value) :=
  let always : List (String × Value) :=
    [("type", finding.category), ("severity", finding.severity.label), ("description", finding.description),
     ("recommendation", finding.recommendation), ("source", finding.origin.label)]
  let line : Value := match finding.line with
    | some number => .int number.val
    | none => .null
  let optional : List (String × Value) :=
    [("line", line), ("snippet", finding.snippet), ("analyzer", finding.analyzer),
     ("location", finding.location), ("details", finding.details), ("estimatedSavings", finding.savings)]
  always ++ optional.filter fun entry ↦ match entry.2 with
    | .null => false
    | _ => true

end Finding

namespace Value

def object (entries : List (String × Value)) : Value := .map (entries.map fun entry ↦ (.str entry.1, entry.2))

end Value

def Finding.toValue (finding : Finding) : Value := .object finding.toEntries

end ContractAudit
