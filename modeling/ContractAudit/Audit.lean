import ContractAudit.Advisor.Answer
import ContractAudit.Advisor.Prompt
import ContractAudit.Fingerprint
import ContractAudit.Report.Render

/-!
# Audits

An audit asks its advisor, if there is one, runs the analyzers, merges and scores what both found, hands the report to
the store, if there is one, and renders it. An advisor or a store that fails degrades the result; it does not stop the
audit. The usual advisor is a language model that completes prompts.
-/

namespace ContractAudit

/-- What a language model does with a prompt. -/
inductive Reply where
  | answered (text : Value)
  | failed
  | timedOut

structure Model where
  complete : String → Reply

/-- What an advisor makes of a source. -/
inductive Opinion where
  | given (answer : Advisor.Answer)
  | failed
  | timedOut

/-- An advisor looks at a source and its language beside the analyzers. -/
structure Advisor where
  judge : (source language : Value) → Opinion

/-- A store for reports: it keeps a text under an identifier, or fails. -/
structure Store where
  keep : String → Option String

structure Auditor where
  registry : Registry := .default
  model : Option Model := none
  store : Option Store := none
  deductions : Deductions := []
  formats : List ReportFormat := [.json, .markdown]
  schedule : Schedule := {}

inductive AuditError where
  | workers (fault : WorkerFault)
  | tally (error : TallyError)
  /-- The score that the model reported is too large to compare. -/
  | reportedScore
  /-- The language is present and no text. -/
  | language
  /-- The source is no text; the flag says whether it counts as present. -/
  | source (present : Bool)
  | render (error : RenderError)

structure AuditResult where
  report : Report
  /-- The identifier that the store gave. -/
  contentId : Option String
  rendered : List (ReportFormat × String)
  /-- The texts handed to the store. -/
  stored : List String
  /-- The prompts sent to the model. -/
  prompts : List String

/-- The answer that an opinion has, and whether it could not be had. -/
def Opinion.usable : Opinion → Option Advisor.Answer × Bool
  | given answer => if answer.unreadable then (none, true) else (some answer, false)
  | failed => (none, true)
  | timedOut => (none, true)

/-- The advisor that puts a question about the source to a model and reads what it answers. -/
def Model.advisor (model : Model) : Advisor where
  judge source language :=
    match model.complete (Advisor.prompt source language) with
    | .answered text =>
      match Advisor.Answer.readValue text with
      | .ok answer => .given answer
      | .error _ => .failed
    | .failed => .failed
    | .timedOut => .timedOut

namespace Auditor

/-- The answer of the advisor, if there is one, and whether it could not be had. -/
def consult (advisor : Option Advisor) (source language : Value) : Option Advisor.Answer × Bool :=
  match advisor with
  | some advisor => (advisor.judge source language).usable
  | none => (none, false)

/-- The outcomes of the analyzers; none in a language that no analyzer knows. -/
def outcomes (auditor : Auditor) (source : Value) (language : String) : Except AuditError (List Outcome) :=
  let registry := auditor.registry.orDefault
  if registry.supports language then
    (registry.runScheduled auditor.schedule source).mapError .workers
  else .ok []

def faultNotes (outcomes : List Outcome) : List String :=
  (outcomes.filter (·.faulted)).map fun outcome ↦
    "Analyzer " ++ outcome.analyzer ++ " failed: " ++ outcome.error

/-- The notes on the answer of the model. -/
def answerNotes (score : Score) (answer : Option Advisor.Answer) (degraded : Bool) :
    Except AuditError (List String) :=
  if degraded then .ok ["AI analysis unavailable; static analysis only"]
  else match answer with
    | none => .ok []
    | some answer =>
      match score.crossCheck answer.securityScore answer.overallRisk with
      | some notes => .ok notes
      | none => .error .reportedScore

/-- Runs the analyzers, merges their findings with the answer of the model, and scores them. -/
def analyze (auditor : Auditor) (source : Value) (language : String) (answer : Option Advisor.Answer)
    (name : String) (degraded : Bool) : Except AuditError Report := do
  let language := languageOr language
  let outcomes ← auditor.outcomes source language
  let modelFindings := (answer.map (·.findings)).getD []
  let tally ← (Tally.ofOutcomes (outcomes.map .proper) (modelFindings.map .proper)).mapError .tally
  let score := Score.ofFindings auditor.deductions tally.vulnerabilities
  let notes ← answerNotes score answer degraded
  match source with
  | .str text =>
    pure
      { tally
        score
        metadata := some (Metadata.ofSource text.toList language name)
        degraded
        notes := faultNotes outcomes ++ notes
        fingerprint := Fingerprint.ofText text
        summary := (answer.map (·.summary)).getD ""
        recommendations := (answer.map (·.recommendations)).getD [] }
  | other => .error (.source other.truthy)

def renderAll (report : Report) (formats : List ReportFormat) :
    Except AuditError (List (ReportFormat × String)) :=
  formats.eraseDups.mapM fun format ↦ do
    pure (format, ← (report.render format).mapError .render)

/-- Audits a source with an advisor, or without one; the model of the auditor is not asked. -/
def auditWith (auditor : Auditor) (advisor : Option Advisor) (source language : Value) (name : String) :
    Except AuditError AuditResult := do
  let (answer, degraded) := consult advisor source language
  let some languageName := languageName? language | .error .language
  let report ← auditor.analyze source languageName answer name degraded
  let rendered ← renderAll report auditor.formats
  pure
    { report
      contentId := auditor.store.bind (·.keep report.canonicalJson)
      rendered
      stored := if auditor.store.isSome then [report.canonicalJson] else []
      prompts := [] }

/-- Audits a source. The language is put into the prompt as it was given. -/
def audit (auditor : Auditor) (source language : Value) (name : String) : Except AuditError AuditResult := do
  let result ← auditor.auditWith (auditor.model.map Model.advisor) source language name
  pure { result with prompts := if auditor.model.isSome then [Advisor.prompt source language] else [] }

end Auditor

end ContractAudit
