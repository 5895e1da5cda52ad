import ContractAudit.Finding
import ContractAudit.Json.Reader

/-!
# Answers of a language model

An answer is untrusted. Code fences around it are dropped, it has to be a JSON object with a list of vulnerabilities,
and each of these becomes a finding only if it has a category and a known severity. Everything else in it is optional
and is dropped when it has the wrong type.
-/

namespace ContractAudit.Advisor

/-! ## Code fences -/

/-- Removes code fences with the language name and the blanks that follow them. The flag says whether the text follows
such a fence. -/
def removeFences : (afterFence : Bool) → List Char → List Char
  | _, '`' :: '`' :: '`' :: 'j' :: 's' :: 'o' :: 'n' :: rest => removeFences true rest
  | _, '`' :: '`' :: '`' :: rest => removeFences true rest
  | afterFence, c :: rest =>
    if afterFence && Text.isBlank c then removeFences true rest else c :: removeFences false rest
  | _, [] => []

/-- The answer without fences and without the blanks around it. -/
def unwrap (text : List Char) : List Char := Text.trim (removeFences false text)

/-! ## Findings -/

def severityAliases : List (String × Severity) :=
  [("CRITICAL", .critical), ("HIGH", .high), ("MEDIUM", .medium), ("MODERATE", .medium), ("LOW", .low),
   ("INFO", .low), ("INFORMATIONAL", .low), ("NOTE", .low)]

/-- The severity that a value names, whatever its case and the blanks around it. -/
def severity? : Value → Option Severity
  | .str name => severityAliases.lookup (Text.upper (Text.strip name))
  | _ => none

/-- The text of a value, empty unless the value is present. -/
def textOf (value : Value) : String := if value.truthy then value.text else ""

def present (value : Value) : Value := if value.truthy then value else .null

/-- The finding that an entry of an answer describes, if it has a category and a known severity. -/
def finding? : Value → Option Finding
  | .map entries =>
    let category := Text.strip (textOf (Value.field entries "type"))
    if named : (Value.str category).truthy = true then
      (severity? (Value.field entries "severity")).map fun severity ↦
        { category := .str category
          severity
          description := .str (textOf (Value.field entries "description"))
          recommendation := .str (textOf (Value.field entries "recommendation"))
          line := LineNumber.ofValue? (Value.field entries "line")
          snippet := present (Value.field entries "code")
          origin := .ai
          location := present (Value.field entries "location")
          named }
    else none
  | _ => none

/-! ## Answers -/

structure Answer where
  findings : List Finding := []
  /-- The overall risk in upper case, null when there is none. -/
  overallRisk : Value := .null
  /-- The score as a number, null when there is none. -/
  securityScore : Value := .null
  summary : String := ""
  recommendations : List String := []
  /-- Whether the answer could not be read. -/
  unreadable : Bool := false

/-- What stands for an answer that could not be read. -/
def Answer.unread : Answer where
  summary := "Failed to parse analysis results"
  recommendations := ["Manual review required - automated analysis failed"]
  unreadable := true

/-- Why an answer could not even be called unreadable. -/
inductive AnswerFault where
  /-- It is nested too deeply. -/
  | tooDeep
  /-- It is not a text. -/
  | notText
deriving DecidableEq, Repr

/-- A score has to be a number. -/
def scoreOf : Value → Value
  | .int n => .int n
  | .float x => .float x
  | _ => .null

def riskOf (value : Value) : Value := if value.truthy then .str (Text.upper value.text) else .null

def recommendationsOf : Value → List String
  | .list items => items.map (·.text)
  | _ => []

/-- The answer in a JSON value, which has to be an object with a list of vulnerabilities. -/
def Answer.ofValue? : Value → Option Answer
  | .map entries =>
    match Value.field entries "vulnerabilities" with
    | .list items => some
      { findings := items.filterMap finding?
        overallRisk := riskOf (Value.field entries "overallRisk")
        securityScore := scoreOf (Value.field entries "securityScore")
        summary := textOf (Value.field entries "summary")
        recommendations := recommendationsOf (Value.field entries "recommendations") }
    | _ => none
  | _ => none

/-- Reads an answer; one that is not as required is unreadable. -/
def Answer.read (text : List Char) : Except AnswerFault Answer :=
  match Json.read (unwrap text) with
  | .error .tooDeep => .error .tooDeep
  | .error .malformed => .ok .unread
  | .ok value => .ok ((Answer.ofValue? value).getD .unread)

/-- Reads what a model returned; nothing counts as an empty text. -/
def Answer.readValue : Value → Except AnswerFault Answer
  | .str text => Answer.read text.toList
  | other => if other.truthy then .error .notText else Answer.read []

end ContractAudit.Advisor
