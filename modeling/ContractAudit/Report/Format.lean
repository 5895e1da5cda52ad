import ContractAudit.Text.Blank
import ContractAudit.Text.LetterCase
import ContractAudit.Value

/-!
# Report formats
-/

namespace ContractAudit

inductive ReportFormat where
  | json
  | markdown
  | html
deriving DecidableEq, Repr

structure UnsupportedFormat where
  given : Value

def UnsupportedFormat.message (error : UnsupportedFormat) : String :=
  "Unsupported report format: " ++ error.given.quoted

namespace ReportFormat

def all : List ReportFormat := [json, markdown, html]

def label : ReportFormat → String
  | json => "json"
  | markdown => "markdown"
  | html => "html"

def fileExtension : ReportFormat → String
  | json => "json"
  | markdown => "md"
  | html => "html"

/-- The format that a value names, whatever its case and the blanks around it. -/
def ofValue (value : Value) : Except UnsupportedFormat ReportFormat :=
  match all.find? (·.label == Text.lower (Text.strip value.text)) with
  | some format => .ok format
  | none => .error ⟨value⟩

end ReportFormat

end ContractAudit
