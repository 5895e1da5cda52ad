import ContractAudit.Audit
import ContractAudit.Proofs.Returns

/-!
# What the formats can show

A report can be written as JSON whatever its findings hold. Markdown joins the location of a finding with its line, so a
location has to be a text; HTML escapes every part that it shows. The main statement says exactly which reports are
rendered in a list of formats.
-/

namespace ContractAudit

namespace Value

def isText : Value → Bool
  | .str _ => true
  | _ => false

/-- Whether a value is a text or counts as absent. -/
def isTextIfPresent (value : Value) : Bool := !value.truthy || value.isText

@[simp] theorem isText_str (text : String) : (str text).isText = true := rfl

@[simp] theorem isTextIfPresent_str (text : String) : (str text).isTextIfPresent = true := Bool.or_true _

@[simp] theorem isTextIfPresent_null : null.isTextIfPresent = true := rfl

def isTextOrNull : Value → Bool
  | .str _ => true
  | .null => true
  | _ => false

theorem isTextIfPresent_of_isTextOrNull {value : Value} (h : value.isTextOrNull = true) :
    value.isTextIfPresent = true := by
  cases value with
  | null => rfl
  | str text => exact isTextIfPresent_str text
  | _ => cases h

theorem hashable_of_isText {value : Value} (h : value.isText = true) : value.hashable = true := by
  cases value with
  | str text => rfl
  | _ => cases h

theorem isTextIfPresent_of_absent {value : Value} (h : ¬ value.truthy = true) : value.isTextIfPresent = true := by
  simp [isTextIfPresent, h]

theorem isTextIfPresent_of_present {value : Value} (h : value.truthy = true) :
    value.isTextIfPresent = value.isText := by
  simp [isTextIfPresent, h]

end Value

namespace ReportFormat

/-- Whether a vulnerability can be shown in a format. -/
def shows (format : ReportFormat) (finding : Finding) : Bool :=
  match format with
  | .json => true
  | .markdown => finding.location.isTextIfPresent
  | .html =>
    finding.location.isTextIfPresent && finding.snippet.isTextIfPresent && finding.category.isText
      && finding.description.isText && finding.recommendation.isText

/-- Whether an optimization can be listed in a format. -/
def lists (format : ReportFormat) (finding : Finding) : Bool :=
  match format with
  | .json => true
  | .markdown => true
  | .html => finding.savings.isTextIfPresent && finding.category.isText && finding.description.isText

end ReportFormat

/-- The finding has texts where it has to have them, and texts or nothing elsewhere. -/
structure Finding.Typed (finding : Finding) : Prop where
  category : finding.category.isText = true
  description : finding.description.isText = true
  recommendation : finding.recommendation.isText = true
  snippet : finding.snippet.isTextOrNull = true
  analyzer : finding.analyzer.isTextOrNull = true
  location : finding.location.isTextOrNull = true
  details : finding.details.isTextOrNull = true
  savings : finding.savings.isTextOrNull = true

/-- All findings of the report are typed. -/
structure Report.Typed (report : Report) : Prop where
  vulnerabilities : ∀ finding ∈ report.tally.vulnerabilities, finding.Typed
  optimizations : ∀ finding ∈ report.tally.optimizations, finding.Typed

theorem Finding.returns_locationText {finding : Finding} :
    Returns finding.locationText ↔ finding.location.isTextIfPresent = true := by
  rw [Finding.locationText]
  split
  · next location h =>
    rw [h]
    exact iff_of_true (returns_ok _) (Bool.or_true _)
  · next notText =>
    by_cases hpresent : finding.location.truthy = true
    · rw [if_pos hpresent, Value.isTextIfPresent_of_present hpresent]
      refine iff_of_false (not_returns_error _) ?_
      cases hlocation : finding.location with
      | str text => exact absurd hlocation (notText text)
      | _ => exact Bool.false_ne_true
    · rw [if_neg hpresent]
      exact iff_of_true (returns_ok _) (Value.isTextIfPresent_of_absent hpresent)

theorem forall_mem_zipIdx_fst {α : Type} (start : Nat) {items : List α} {holds : α → Prop} :
    (∀ entry ∈ items.zipIdx start, holds entry.1) ↔ ∀ item ∈ items, holds item := by
  rw [← List.forall_mem_map (f := Prod.fst), List.zipIdx_map_fst]

namespace Report

namespace Html

theorem returns_escapeValue {value : Value} : Returns (escapeValue value) ↔ value.isText = true := by
  cases value <;> simp [escapeValue, Value.isText]

theorem returns_escapePresent {value : Value} :
    Returns (escapePresent value) ↔ value.isTextIfPresent = true := by
  rw [escapePresent]
  by_cases hpresent : value.truthy = true
  · rw [if_pos hpresent, returns_map, returns_escapeValue, Value.isTextIfPresent_of_present hpresent]
  · rw [if_neg hpresent]
    exact iff_of_true (returns_ok _) (Value.isTextIfPresent_of_absent hpresent)

/-- A vulnerability is rendered exactly if the format can show it. -/
theorem returns_vulnerability {entry : Finding × Nat} :
    Returns (vulnerability entry) ↔ ReportFormat.html.shows entry.1 = true := by
  obtain ⟨finding, number⟩ := entry
  simp only [vulnerability, ReportFormat.shows, Bool.and_eq_true, and_assoc]
  rw [← Finding.returns_locationText, ← returns_escapePresent, ← returns_escapeValue, ← returns_escapeValue,
    ← returns_escapeValue]
  simp only [returns_bind, returns_pure, and_true]
  simp only [Returns, exists_and_right]

theorem returns_optimization {finding : Finding} :
    Returns (optimization finding) ↔ ReportFormat.html.lists finding = true := by
  simp only [optimization, ReportFormat.lists, Bool.and_eq_true, and_assoc]
  rw [← returns_escapePresent, ← returns_escapeValue, ← returns_escapeValue]
  simp only [returns_bind, returns_pure, and_true]
  simp only [Returns, exists_and_right]

/-- A report is rendered exactly if the format can show all its findings. -/
theorem returns_render {report : Report} :
    Returns (render report) ↔ (∀ finding ∈ report.tally.vulnerabilities, ReportFormat.html.shows finding = true) ∧
      ∀ finding ∈ report.tally.optimizations, ReportFormat.html.lists finding = true := by
  rw [render, ← forall_mem_zipIdx_fst 1]
  simp only [← returns_vulnerability, ← returns_optimization, ← returns_mapM]
  simp only [returns_bind, returns_pure, and_true]
  simp only [Returns, exists_and_right]

end Html

namespace Markdown

theorem returns_vulnerability {entry : Finding × Nat} :
    Returns (vulnerability entry) ↔ ReportFormat.markdown.shows entry.1 = true := by
  obtain ⟨finding, number⟩ := entry
  rw [vulnerability, ReportFormat.shows, ← Finding.returns_locationText]
  exact returns_bind_of_forall fun _ ↦ returns_pure _

theorem returns_vulnerabilitySection {findings : List Finding} :
    Returns (vulnerabilitySection findings) ↔ ∀ finding ∈ findings, ReportFormat.markdown.shows finding = true := by
  rw [vulnerabilitySection]
  cases findings with
  | nil => simp
  | cons finding rest =>
    rw [← forall_mem_zipIdx_fst 1]
    simp only [← returns_vulnerability, ← returns_mapM]
    exact returns_bind_of_forall fun _ ↦ returns_pure _

theorem returns_render {report : Report} :
    Returns (render report) ↔
      ∀ finding ∈ report.tally.vulnerabilities, ReportFormat.markdown.shows finding = true := by
  rw [render, ← returns_vulnerabilitySection]
  exact returns_bind_of_forall fun _ ↦ returns_pure _

end Markdown

/-- A format renders a report exactly when it can show all its findings. -/
theorem returns_render {report : Report} {format : ReportFormat} :
    Returns (report.render format) ↔ (∀ finding ∈ report.tally.vulnerabilities, format.shows finding = true) ∧
      ∀ finding ∈ report.tally.optimizations, format.lists finding = true := by
  cases format with
  | json => exact iff_of_true (returns_ok _) ⟨fun _ _ ↦ rfl, fun _ _ ↦ rfl⟩
  | markdown =>
    rw [render, Markdown.returns_render]
    exact (and_iff_left fun _ _ ↦ rfl).symm
  | html => exact Html.returns_render

end Report

/-- A report is rendered in a list of formats exactly when each of them can show all its findings. -/
theorem Auditor.returns_renderAll {report : Report} {formats : List ReportFormat} :
    Returns (renderAll report formats) ↔ ∀ format ∈ formats,
      (∀ finding ∈ report.tally.vulnerabilities, format.shows finding = true) ∧
        ∀ finding ∈ report.tally.optimizations, format.lists finding = true := by
  rw [renderAll, returns_mapM]
  simp only [List.mem_eraseDups]
  refine forall₂_congr fun format _ ↦ ?_
  rw [returns_bind_of_forall fun _ ↦ returns_pure _, returns_mapError, Report.returns_render]

end ContractAudit
