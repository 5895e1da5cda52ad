import ContractAudit.Proofs.Merging
import ContractAudit.Proofs.Rendering

/-!
# Audits step by step

When each step of an audit returns and what it then returns. Later results cite these statements and do not look into
the steps again.
-/

namespace ContractAudit

namespace Tally

theorem proper_map_proper {α : Type} (error : String → TallyError) (items : List α) :
    proper error (items.map .proper) = .ok items := by
  induction items with
  | nil => rfl
  | cons item rest ih =>
    rw [proper] at ih ⊢
    rw [List.map_cons, List.mapM_cons, ih]
    rfl

/-- The tally of outcomes and findings of a language model, whether or not their categories can be counted. -/
def combined (outcomes : List Outcome) (model : List Finding) : Tally :=
  let vulnerabilities := ranked (unique (Outcome.reported outcomes ++ model.map (·.fromModel)))
  { vulnerabilities
    severityCounts := countBySeverity vulnerabilities
    categoryCounts := (vulnerabilities.map (·.category)).foldl addCategory []
    optimizations := ranked (unique (Outcome.advised outcomes)) }

/-- Before the sort, the findings of the model that are new come after those of the analyzers. -/
theorem vulnerabilities_combined (outcomes : List Outcome) (model : List Finding) :
    (combined outcomes model).vulnerabilities = ranked (unique (Outcome.reported outcomes) ++
      dropRepeated ((Outcome.reported outcomes).map Finding.key) (model.map (·.fromModel))) := by
  rw [combined, unique_append]

def Countable (tally : Tally) : Prop := ∀ finding ∈ tally.vulnerabilities, finding.category.hashable = true

/-- Outcomes whose categories can be counted have a tally. -/
theorem ofOutcomes_of_countable {outcomes : List Outcome} {model : List Finding}
    (countable : (combined outcomes model).Countable) :
    ofOutcomes (outcomes.map .proper) (model.map .proper) = .ok (combined outcomes model) := by
  have hall : (combined outcomes model).vulnerabilities.all (·.category.hashable) = true :=
    List.all_eq_true.mpr countable
  rw [combined] at hall
  simp only [ofOutcomes, ofFindings, proper_map_proper, bind, Except.bind, ofMerged, countByCategory]
  rw [if_pos hall]
  rfl

/-- One category that cannot be counted stops the tally. -/
theorem ofOutcomes_of_not_countable {outcomes : List Outcome} {model : List Finding}
    (countable : ¬ (combined outcomes model).Countable) :
    ofOutcomes (outcomes.map .proper) (model.map .proper) = .error .unhashableCategory := by
  have hall : ¬ (combined outcomes model).vulnerabilities.all (·.category.hashable) = true :=
    fun h ↦ countable (List.all_eq_true.mp h)
  rw [combined] at hall
  simp only [ofOutcomes, ofFindings, proper_map_proper, bind, Except.bind, ofMerged, countByCategory]
  rw [if_neg hall]

/-- Outcomes are merged exactly when their categories can be counted. -/
theorem ofOutcomes_eq_ok_iff {outcomes : List Outcome} {model : List Finding} {tally : Tally} :
    ofOutcomes (outcomes.map .proper) (model.map .proper) = .ok tally ↔
      (combined outcomes model).Countable ∧ tally = combined outcomes model := by
  by_cases countable : (combined outcomes model).Countable
  · rw [ofOutcomes_of_countable countable, Except.ok.injEq, and_iff_right countable]
    exact eq_comm
  · rw [ofOutcomes_of_not_countable countable]
    exact iff_of_false (fun h ↦ by cases h) fun h ↦ countable h.1

end Tally

namespace Auditor

/-- The analyzers all run if one of them knows the language, and else none does. Only too few workers stop them. -/
theorem outcomes_eq_ok_iff {auditor : Auditor} {source : Value} {language : String} {outcomes : List Outcome} :
    auditor.outcomes source language = .ok outcomes ↔
      (auditor.registry.orDefault.supports language = true →
        auditor.schedule.check auditor.registry.orDefault.length = .ok ()) ∧
      outcomes =
        if auditor.registry.orDefault.supports language then auditor.registry.orDefault.run source else [] := by
  unfold Auditor.outcomes Registry.runScheduled
  by_cases hsupports : auditor.registry.orDefault.supports language = true
  · simp only [if_pos hsupports, mapError_eq_ok_iff, bind_eq_ok_iff, imp_iff_right hsupports]
    constructor
    · rintro ⟨_, hcheck, hrun⟩
      cases hrun
      exact ⟨hcheck, rfl⟩
    · rintro ⟨hcheck, rfl⟩
      exact ⟨(), hcheck, rfl⟩
  · simp only [if_neg hsupports, Except.ok.injEq]
    constructor
    · rintro rfl
      exact ⟨fun h ↦ absurd h hsupports, rfl⟩
    · exact fun h ↦ h.2.symm

def reportOn (auditor : Auditor) (text language : String) (outcomes : List Outcome) (answer : Option Advisor.Answer)
    (name : String) (degraded : Bool) (notes : List String) : Report :=
  let tally := Tally.combined outcomes ((answer.map (·.findings)).getD [])
  { tally
    score := Score.ofFindings auditor.deductions tally.vulnerabilities
    metadata := some (Metadata.ofSource text.toList language name)
    degraded
    notes := faultNotes outcomes ++ notes
    fingerprint := Fingerprint.ofText text
    summary := (answer.map (·.summary)).getD ""
    recommendations := (answer.map (·.recommendations)).getD [] }

/-- An analysis returns a report exactly when the analyzers can be run, the categories can be counted, the answer can be
compared with the score, and the source is a text. -/
theorem analyze_eq_ok_iff {auditor : Auditor} {source : Value} {language name : String}
    {answer : Option Advisor.Answer} {degraded : Bool} {report : Report} :
    auditor.analyze source language answer name degraded = .ok report ↔
      ∃ outcomes notes text, auditor.outcomes source (languageOr language) = .ok outcomes ∧
        (Tally.combined outcomes ((answer.map (·.findings)).getD [])).Countable ∧
        answerNotes (Score.ofFindings auditor.deductions
          (Tally.combined outcomes ((answer.map (·.findings)).getD [])).vulnerabilities) answer degraded = .ok notes ∧
        source = .str text ∧
        report = auditor.reportOn text (languageOr language) outcomes answer name degraded notes := by
  rw [analyze]
  simp only [bind_eq_ok_iff, mapError_eq_ok_iff, Tally.ofOutcomes_eq_ok_iff]
  constructor
  · rintro ⟨outcomes, houtcomes, tally, ⟨hcountable, rfl⟩, notes, hnotes, hreport⟩
    cases source with
    | str text =>
      refine ⟨outcomes, notes, text, houtcomes, hcountable, hnotes, rfl, ?_⟩
      cases hreport
      rfl
    | _ => cases hreport
  · rintro ⟨outcomes, notes, text, houtcomes, hcountable, hnotes, rfl, rfl⟩
    exact ⟨outcomes, houtcomes, _, ⟨hcountable, rfl⟩, notes, hnotes, rfl⟩

/-- An audit asks the advisor before it looks at the language. -/
theorem auditWith_eq (auditor : Auditor) (advisor : Option Advisor) (source language : Value) (name : String) :
    auditor.auditWith advisor source language name =
      (match languageName? language with
      | none => .error .language
      | some languageName => do
        let report ← auditor.analyze source languageName (consult advisor source language).1 name
          (consult advisor source language).2
        let rendered ← renderAll report auditor.formats
        pure
          { report
            contentId := auditor.store.bind (·.keep report.canonicalJson)
            rendered
            stored := if auditor.store.isSome then [report.canonicalJson] else []
            prompts := [] }) := by
  rw [auditWith]
  cases languageName? language <;> rfl

/-- An audit returns exactly when its analysis does and its report can be rendered. -/
theorem auditWith_eq_ok_iff {auditor : Auditor} {advisor : Option Advisor} {source language : Value} {name : String}
    {result : AuditResult} :
    auditor.auditWith advisor source language name = .ok result ↔
      ∃ languageName report rendered, languageName? language = some languageName ∧
        auditor.analyze source languageName (consult advisor source language).1 name
          (consult advisor source language).2 = .ok report ∧
        renderAll report auditor.formats = .ok rendered ∧
        result =
          { report
            contentId := auditor.store.bind (·.keep report.canonicalJson)
            rendered
            stored := if auditor.store.isSome then [report.canonicalJson] else []
            prompts := [] } := by
  rw [auditWith_eq]
  cases languageName? language with
  | none =>
    refine iff_of_false (fun h ↦ ?_) fun ⟨_, _, _, h, _⟩ ↦ by cases h
    cases h
  | some languageName =>
    simp only [bind_eq_ok_iff, Option.some.injEq]
    constructor
    · rintro ⟨report, hreport, rendered, hrendered, hresult⟩
      cases hresult
      exact ⟨languageName, report, rendered, rfl, hreport, hrendered, rfl⟩
    · rintro ⟨_, report, rendered, rfl, hreport, hrendered, rfl⟩
      exact ⟨report, hreport, rendered, hrendered, rfl⟩

/-- What the model answers to the question about a source, if there is a model, and whether it could not be asked. -/
def consultation (auditor : Auditor) (source language : Value) : Option Advisor.Answer × Bool :=
  consult (auditor.model.map Model.advisor) source language

/-- The audit with the model of the auditor is that with its advisor, with the prompt beside the result. -/
theorem audit_eq_ok_iff {auditor : Auditor} {source language : Value} {name : String} {result : AuditResult} :
    auditor.audit source language name = .ok result ↔
      ∃ languageName report rendered, languageName? language = some languageName ∧
        auditor.analyze source languageName (auditor.consultation source language).1 name
          (auditor.consultation source language).2 = .ok report ∧
        renderAll report auditor.formats = .ok rendered ∧
        result =
          { report
            contentId := auditor.store.bind (·.keep report.canonicalJson)
            rendered
            stored := if auditor.store.isSome then [report.canonicalJson] else []
            prompts := if auditor.model.isSome then [Advisor.prompt source language] else [] } := by
  rw [audit, bind_eq_ok_iff]
  constructor
  · rintro ⟨result, hresult, hprompts⟩
    obtain ⟨languageName, report, rendered, hlanguage, hreport, hrendered, rfl⟩ := auditWith_eq_ok_iff.mp hresult
    cases hprompts
    exact ⟨languageName, report, rendered, hlanguage, hreport, hrendered, rfl⟩
  · rintro ⟨languageName, report, rendered, hlanguage, hreport, hrendered, rfl⟩
    exact ⟨_, auditWith_eq_ok_iff.mpr ⟨languageName, report, rendered, hlanguage, hreport, hrendered, rfl⟩, rfl⟩

end Auditor

end ContractAudit
