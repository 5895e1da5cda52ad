import ContractAudit.Proofs.ModelInfluence

/-!
# Analyzers and the languages that they know

Whether a source is judged is asked of the registry as a whole: as soon as one analyzer knows the language, all of them
run. The analyzers that run are therefore those that know the language only where all of them do, or none does, as in a
registry for a single language. In a registry for several languages, analyzers judge sources in languages that they do
not know.
-/

namespace ContractAudit

namespace Registry

/-- The analyzers that know a language. -/
def knowing (registry : Registry) (language : String) : Registry := registry.filter (·.supports language)

/-- The analyzers that run on a source in a language: all of them once one knows it, and else none. -/
def judging (registry : Registry) (language : String) : Registry :=
  if registry.supports language then registry else []

theorem judging_of_supports {registry : Registry} {language : String} (h : registry.supports language = true) :
    registry.judging language = registry := if_pos h

/-- A language is unknown to a registry if no analyzer knows it. -/
theorem supports_eq_false_iff {registry : Registry} {language : String} :
    registry.supports language = false ↔ ∀ analyzer ∈ registry, analyzer.supports language = false := by
  rw [supports, List.any_eq_false]
  simp only [Bool.not_eq_true]

/-- The analyzers that run are those that know the language exactly if they all agree on it. -/
theorem judging_eq_knowing_iff {registry : Registry} {language : String} :
    registry.judging language = registry.knowing language ↔
      (∀ analyzer ∈ registry, analyzer.supports language = true) ∨
        ∀ analyzer ∈ registry, analyzer.supports language = false := by
  cases hsupports : registry.supports language with
  | false =>
    have hnone := supports_eq_false_iff.mp hsupports
    have hknowing : registry.knowing language = [] :=
      List.filter_eq_nil_iff.mpr fun analyzer hanalyzer ↦ Bool.eq_false_iff.mp (hnone analyzer hanalyzer)
    rw [judging, hsupports, hknowing]
    exact iff_of_true rfl (Or.inr hnone)
  | true =>
    have hsome : ¬ ∀ analyzer ∈ registry, analyzer.supports language = false := by
      rw [← supports_eq_false_iff, hsupports]
      exact Bool.noConfusion
    rw [judging_of_supports hsupports, or_iff_left hsome, eq_comm]
    exact List.filter_eq_self

theorem findings_eq_reported_judging (registry : Registry) (source : Value) (language : String) :
    registry.findings source language =
      Outcome.reported ((registry.orDefault.judging (languageOr language)).run source) := by
  unfold findings judging
  dsimp only
  split
  · rfl
  · rfl

end Registry

/-- The report says what the analyzers found, no more and no less. Their findings, each once, are the vulnerabilities
that did not come from a model, and their advice is the list of optimizations. The notes are those on their faults,
followed by those on the answer of the model. -/
structure Report.JudgedBy (report : Report) (registry : Registry) (source : Value) (answer : Option Advisor.Answer) :
    Prop where
  vulnerabilities : report.tally.vulnerabilities.filter (·.origin == .static) =
    Tally.ranked (Tally.unique (Outcome.reported (registry.run source)))
  optimizations : report.tally.optimizations = Tally.ranked (Tally.unique (Outcome.advised (registry.run source)))
  notes : ∃ answerNotes, Auditor.answerNotes report.score answer report.degraded = .ok answerNotes ∧
    report.notes = Auditor.faultNotes (registry.run source) ++ answerNotes

namespace Auditor

/-- The outcomes of an audit are those of the analyzers that run on the language. -/
theorem outcomes_eq_run_judging {auditor : Auditor} {source : Value} {language : String} {outcomes : List Outcome}
    (h : auditor.outcomes source language = .ok outcomes) :
    outcomes = (auditor.registry.orDefault.judging language).run source := by
  rw [(outcomes_eq_ok_iff.mp h).2, Registry.judging]
  split
  · rfl
  · rfl

/-- An analysis says what the analyzers found that run on the language, and adds only the notes on the answer. -/
theorem judgedBy_of_analyze {auditor : Auditor} {source : Value} {language name : String}
    {answer : Option Advisor.Answer} {degraded : Bool} {report : Report}
    (h : auditor.analyze source language answer name degraded = .ok report) :
    report.JudgedBy (auditor.registry.orDefault.judging (languageOr language)) source answer := by
  obtain ⟨outcomes, notes, text, houtcomes, -, hnotes, -, rfl⟩ := analyze_eq_ok_iff.mp h
  have hrun := outcomes_eq_run_judging houtcomes
  constructor
  · rw [← hrun]
    apply (Tally.filter_static_combined outcomes _).trans
    rw [Tally.combined, List.map_nil, List.append_nil]
  · rw [← hrun]
    rfl
  · rw [← hrun]
    exact ⟨notes, hnotes, rfl⟩

/-- Analyzers judge together. A report says what is found by all analyzers of the registry if one of them knows the
language, and by none of them otherwise; so does the list of static findings. The analyzers that run are those that
know the language exactly if all of them know it or none does. -/
theorem judged_by_all_or_none (auditor : Auditor) (source : Value) (language : String) :
    (∀ answer name degraded report, auditor.analyze source language answer name degraded = .ok report →
      report.JudgedBy (auditor.registry.orDefault.judging (languageOr language)) source answer) ∧
      auditor.registry.findings source language =
        Outcome.reported ((auditor.registry.orDefault.judging (languageOr language)).run source) ∧
      (auditor.registry.orDefault.judging (languageOr language) =
          auditor.registry.orDefault.knowing (languageOr language) ↔
        (∀ analyzer ∈ auditor.registry.orDefault, analyzer.supports (languageOr language) = true) ∨
          ∀ analyzer ∈ auditor.registry.orDefault, analyzer.supports (languageOr language) = false) := by
  refine ⟨?_, auditor.registry.findings_eq_reported_judging source language, Registry.judging_eq_knowing_iff⟩
  intro answer name degraded report hreport
  exact judgedBy_of_analyze hreport

/-! ## A registry for two languages -/

/-- The analyzer for checks of the originator, which knows Solidity, and an analyzer for Vyper that finds nothing. -/
def bilingual : Auditor where
  registry := [Rule.TxOrigin.analyzer,
    { kind := "VyperAnalyzer", name := "Vyper Lint", languages := ["vyper"]
      check := fun _ ↦ .ok { analyzer := "Vyper Lint" } }]

def ownerCheck : Value := .str "assert tx.origin == self.owner"

theorem supports_bilingual : bilingual.registry.orDefault.supports (languageOr "vyper") = true := by decide +kernel

theorem exists_reported_bilingual : ∃ finding,
    Outcome.reported (bilingual.registry.run ownerCheck) = [finding] ∧ finding.category.isText = true :=
  ⟨_, rfl, rfl⟩

theorem exists_analyze_bilingual : ∃ finding report,
    Outcome.reported (bilingual.registry.run ownerCheck) = [finding] ∧
      bilingual.analyze ownerCheck "vyper" none "" false = .ok report ∧ finding ∈ report.tally.vulnerabilities := by
  obtain ⟨finding, hreported, htext⟩ := exists_reported_bilingual
  have houtcomes : bilingual.outcomes ownerCheck (languageOr "vyper") = .ok (bilingual.registry.run ownerCheck) := by
    rw [outcomes_eq_ok_iff, if_pos supports_bilingual]
    exact ⟨fun _ ↦ rfl, rfl⟩
  have hcombined : (Tally.combined (bilingual.registry.run ownerCheck) []).vulnerabilities = [finding] := by
    rw [Tally.combined, hreported]
    exact List.mergeSort_singleton finding
  refine ⟨finding, _, hreported, analyze_eq_ok_iff.mpr ⟨_, [], _, houtcomes, ?_, rfl, rfl, rfl⟩, ?_⟩
  · intro other hother
    have hmem : other ∈ [finding] := hcombined ▸ hother
    rw [List.mem_singleton.mp hmem]
    exact Value.hashable_of_isText htext
  · exact hcombined.symm ▸ List.mem_singleton_self finding

theorem judged_by_all_or_none_bilingual :
    ∃ report, bilingual.analyze ownerCheck "vyper" none "" false = .ok report ∧
      report.JudgedBy (bilingual.registry.orDefault.judging (languageOr "vyper")) ownerCheck none := by
  obtain ⟨-, report, -, hreport, -⟩ := exists_analyze_bilingual
  exact ⟨report, hreport, (judged_by_all_or_none bilingual ownerCheck "vyper").1 none "" false report hreport⟩

/-- A Vyper source is judged by an analyzer that does not know Vyper. No analyzer that knows it reports the finding. -/
theorem solidity_analyzer_judges_vyper :
    ∃ finding, finding ∈ bilingual.registry.findings ownerCheck "vyper" ∧
      (∃ report, bilingual.analyze ownerCheck "vyper" none "" false = .ok report ∧
        finding ∈ report.tally.vulnerabilities) ∧
      finding ∉ Outcome.reported ((bilingual.registry.knowing (languageOr "vyper")).run ownerCheck) := by
  obtain ⟨finding, report, hreported, hreport, hfinding⟩ := exists_analyze_bilingual
  refine ⟨finding, ?_, ⟨report, hreport, hfinding⟩, ?_⟩
  · have hjudging := Registry.judging_of_supports supports_bilingual
    rw [Registry.findings_eq_reported_judging, hjudging]
    exact hreported.symm ▸ List.mem_singleton_self finding
  · have hknowing : bilingual.registry.knowing (languageOr "vyper") = bilingual.registry.drop 1 := rfl
    rw [hknowing]
    exact List.not_mem_nil

end Auditor

end ContractAudit
