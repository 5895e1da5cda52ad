import ContractAudit.Finding
import ContractAudit.Number.Read

/-!
# Scores

A score starts at one hundred and loses points for every finding, more for severe ones, down to zero. The overall risk
is the most severe level present. A language model may report a score and a risk of its own; they are compared with the
computed ones, which stay authoritative.
-/

namespace ContractAudit

structure Score where
  points : Int
  risk : Severity
deriving DecidableEq, Repr

/-- The points that a finding of each level costs; levels that are not listed cost nothing. -/
abbrev Deductions := List (Severity × Int)

namespace Score

def standardDeductions : Deductions := [(.critical, 25), (.high, 15), (.medium, 10), (.low, 5)]

/-- The given deductions, or the standard ones when none are given. -/
def deductionsOr (deductions : Deductions) : Deductions :=
  if deductions.isEmpty then standardDeductions else deductions

def deduction (deductions : Deductions) (severity : Severity) : Int := (deductions.lookup severity).getD 0

/-- The points left after all findings, between zero and one hundred. -/
def pointsOf (deductions : Deductions) (findings : List Finding) : Int :=
  let score := findings.foldl (fun score finding ↦ score - deduction deductions finding.severity) 100
  max 0 (min 100 score)

/-- The most severe level present, and the least one when there are no findings. -/
def riskOf (findings : List Finding) : Severity := (Severity.worst? (findings.map (·.severity))).getD .low

def ofFindings (deductions : Deductions) (findings : List Finding) : Score :=
  ⟨pointsOf (deductionsOr deductions) findings, riskOf findings⟩

def toEntries (score : Score) : List (String × Value) :=
  [("securityScore", .int score.points), ("overallRisk", .str score.risk.label)]

/-! ## Comparison with a reported score -/

inductive Reported where
  | points (n : Int)
  | notNumeric
  /-- The number is too large to compare. -/
  | tooLarge

/-- Rounds a number to the nearest whole one, with halves to the even neighbour. -/
def roundPoints (x : Float) : Reported :=
  match Number.dyadic? x with
  | some value => .points value.nearest
  | none => if x.isNaN then .notNumeric else .tooLarge

/-- Reads a reported score: numbers, truth values and texts that write a number. -/
def readReported : Value → Reported
  | .float x => roundPoints x
  | .str text => match Number.readFloat? text with
    | some x => roundPoints x
    | none => .notNumeric
  | value => match value.integer? with
    | some n => match Number.ofInt? n with
      | some x => roundPoints x
      | none => .tooLarge
    | none => .notNumeric

/-- The notes on a reported score; nothing can be said about one that is too large. -/
def pointsNotes (score : Score) (reported : Value) : Option (List String) :=
  match reported with
  | .null => some []
  | reported => match readReported reported with
    | .tooLarge => none
    | .notNumeric => some ["AI reported a non-numeric security score: " ++ reported.quoted]
    | .points n =>
      if n = score.points then some []
      else some ["AI reported security score " ++ toString n ++ ", engine computed " ++ toString score.points]

/-- The notes on a reported risk, which is compared in upper case. -/
def riskNotes (score : Score) (reported : Value) : List String :=
  match reported with
  | .null => []
  | reported =>
    let label := Text.upper reported.text
    if label = score.risk.label then []
    else ["AI reported overall risk " ++ label ++ ", engine computed " ++ score.risk.label]

/-- Where a reported score and risk disagree with the computed ones. -/
def crossCheck (score : Score) (points risk : Value) : Option (List String) :=
  (pointsNotes score points).map (· ++ riskNotes score risk)

end Score

end ContractAudit
