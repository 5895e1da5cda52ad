import ContractAudit.Report

/-!
# Places of findings in rendered reports
-/

namespace ContractAudit

inductive RenderError where
  /-- A location is present and not a text. -/
  | location
  /-- Another part is not a text and cannot be escaped. -/
  | markup
deriving DecidableEq, Repr

namespace Finding

def lineText (finding : Finding) : Option String := finding.line.map fun number ↦ "line " ++ toString number.val

/-- The location and the line of a finding, as far as they are present. -/
def locationText (finding : Finding) : Except RenderError String :=
  let line := finding.lineText.toList
  match finding.location with
  | .str location => .ok (", ".intercalate (if location.isEmpty then line else location :: line))
  | location => if location.truthy then .error .location else .ok (", ".intercalate line)

end Finding

namespace Tally

/-- The count of a level; levels that are not listed have none. -/
def countOf (tally : Tally) (severity : Severity) : Int := (tally.severityCounts.lookup severity.label).getD 0

end Tally

end ContractAudit
