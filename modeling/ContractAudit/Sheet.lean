import ContractAudit.Comment
import ContractAudit.Finding
import ContractAudit.Text.Blank

/-!
# Sheets and advice

A sheet is a source laid out in lines for the rules: the raw lines feed snippets and brace counts, the code lines, with
comments blanked, are what patterns are matched against. Advice is the fixed wording of a finding; a rule puts it at a
line of a sheet or reports it for the source as a whole.
-/

namespace ContractAudit

open Text

structure Sheet where
  raw : List Line
  code : List Line

namespace Sheet

def ofSource (source : List Char) : Sheet := ⟨splitLines source, splitLines (Comment.strip source)⟩

def text (sheet : Sheet) : List Char := joinLines sheet.code

@[simp] theorem text_ofSource (source : List Char) : (ofSource source).text = Comment.strip source := by
  simp [text, ofSource]

/-- The raw line with an index, without the blanks around it. -/
def snippet (sheet : Sheet) (index : Nat) : Value :=
  match sheet.raw[index]? with
  | some line => .str (String.ofList (trim line))
  | none => .null

end Sheet

/-- The wording of a finding. -/
structure Advice where
  category : String
  severity : Severity
  description : String
  recommendation : String
  location : Value := .null
  details : Value := .null
  savings : Value := .null
  named : (Value.str category).truthy = true := by decide

namespace Advice

def overall (advice : Advice) : Finding where
  category := .str advice.category
  severity := advice.severity
  description := .str advice.description
  recommendation := .str advice.recommendation
  location := advice.location
  details := advice.details
  savings := advice.savings
  named := advice.named

/-- The finding at the line with an index. -/
def atLine (advice : Advice) (sheet : Sheet) (index : Nat) : Finding :=
  { advice.overall with line := some (.ofIndex index), snippet := sheet.snippet index }

end Advice

end ContractAudit
