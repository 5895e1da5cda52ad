import ContractAudit.Proofs.AuditSteps

/-!
# Advisors and stores that fail

An advisor can raise an error, take too long, or answer what cannot be read. All three leave the report of the audit
without an advisor, up to a mark and a last note, and stop the audit only where that one stops. A store sees the
finished report. Whether there is one, and whether it keeps what it is handed, shows in the identifier and in nothing
else.
-/

namespace ContractAudit

/-- The advisor raised an error, took too long, or gave an answer that could not be read. -/
def Opinion.Fails : Opinion → Prop
  | given answer => answer.unreadable = true
  | failed => True
  | timedOut => True

/-- All failures of an advisor look the same to the audit. -/
theorem Opinion.usable_of_fails {opinion : Opinion} (h : opinion.Fails) : opinion.usable = (none, true) := by
  cases opinion with
  | given answer => exact if_pos h
  | failed => rfl
  | timedOut => rfl

/-- Computations that return are alike as far as returning goes. -/
theorem alike_pure {ε α : Type} (first second : α) :
    Alike (fun _ ↦ ()) (pure first : Except ε α) (pure second) := rfl

namespace Report

/-- The report with the mark and the note of an audit whose advisor failed. -/
def markedDegraded (report : Report) : Report :=
  { report with
    degraded := true
    notes := report.notes ++ ["AI analysis unavailable; static analysis only"] }

@[simp] theorem tally_markedDegraded (report : Report) : report.markedDegraded.tally = report.tally := rfl

/-- Reports on the same findings are rendered alike: no format has an error of its own for other parts. -/
theorem render_alike {report other : Report} (h : report.tally = other.tally) (format : ReportFormat) :
    Alike (fun _ ↦ ()) (report.render format) (other.render format) := by
  cases format with
  | json => rfl
  | markdown =>
    unfold render Markdown.render
    rw [h]
    apply Alike.bind_left
    intro vulnerabilities
    exact alike_pure _ _
  | html =>
    unfold render Html.render
    rw [h]
    apply Alike.bind_left
    intro vulnerabilities
    apply Alike.bind_left
    intro optimizations
    exact alike_pure _ _

end Report

namespace Auditor

/-- Whether a report can be rendered depends on its tally only. -/
theorem renderAll_alike {report other : Report} (h : report.tally = other.tally) (formats : List ReportFormat) :
    Alike (List.map fun _ ↦ ()) (renderAll report formats) (renderAll other formats) := by
  apply Alike.mapM
  intro format
  have hrender := Report.render_alike h format
  rcases hrender.cases with ⟨error, hreport, hother⟩ | ⟨text, text', hreport, hother, -⟩
  · rw [hreport, hother]
    rfl
  · rw [hreport, hother]
    rfl

variable {auditor : Auditor} {source language : Value} {name : String}

/-- Without an answer, a degraded analysis is the other one with a mark. -/
theorem analyze_degraded (auditor : Auditor) (source : Value) (language name : String) :
    auditor.analyze source language none name true =
      (auditor.analyze source language none name false).map Report.markedDegraded := by
  unfold analyze answerNotes
  dsimp only [bind, Except.bind]
  cases auditor.outcomes source (languageOr language) with
  | error error => rfl
  | ok outcomes =>
    dsimp only
    cases (Tally.ofOutcomes (outcomes.map .proper) (List.map .proper
        ((Option.map (·.findings) (none : Option Advisor.Answer)).getD []))).mapError AuditError.tally with
    | error error => rfl
    | ok tally =>
      cases source with
      | str text => simp [Except.map, pure, Except.pure, Report.markedDegraded]
      | _ => rfl

/-- An audit whose advisor fails ends as the audit without an advisor does, with the report marked. -/
theorem auditWith_of_fails {advisor : Advisor} (fails : (advisor.judge source language).Fails) :
    (auditor.auditWith (some advisor) source language name).map (·.report) =
      (auditor.auditWith none source language name).map (·.report.markedDegraded) := by
  have hconsult : consult (some advisor) source language = (none, true) := Opinion.usable_of_fails fails
  rw [auditWith_eq, auditWith_eq, hconsult, consult]
  cases languageName? language with
  | none => rfl
  | some languageName =>
    dsimp only
    rw [analyze_degraded]
    cases auditor.analyze source languageName none name false with
    | error error => rfl
    | ok report =>
      have hrender := renderAll_alike report.tally_markedDegraded auditor.formats
      dsimp only [Except.map, bind, Except.bind]
      rcases hrender.cases with ⟨error, hmarked, hreport⟩ | ⟨rendered, rendered', hmarked, hreport, -⟩
      · rw [hmarked, hreport]
      · rw [hmarked, hreport]
        rfl

/-- Another store, or none, leaves the report and the rendered texts. -/
theorem exists_auditWith_store {advisor : Option Advisor} {result : AuditResult}
    (h : auditor.auditWith advisor source language name = .ok result) (store : Option Store) :
    ∃ other, { auditor with store := store }.auditWith advisor source language name = .ok other ∧
      other.report = result.report ∧ other.rendered = result.rendered := by
  obtain ⟨languageName, report, rendered, hlanguage, hreport, hrendered, rfl⟩ := auditWith_eq_ok_iff.mp h
  exact ⟨_, auditWith_eq_ok_iff.mpr ⟨languageName, report, rendered, hlanguage, hreport, hrendered, rfl⟩, rfl, rfl⟩

/-- Collaborators that fail leave nothing but their marks. An audit whose advisor raises an error, takes too long or
gives an unreadable answer ends as the audit without an advisor does, and its report is that one's with the mark and a
last note. Whenever an audit returns, with whatever advisor, it returns the same report and the same texts with any
other store and without one; a store is handed the canonical text of the report and nothing else, and there is no
identifier exactly when there is no store or the store fails on this text. -/
theorem failures_leave_marks_only (auditor : Auditor) (source language : Value) (name : String) :
    (∀ advisor : Advisor, (advisor.judge source language).Fails →
      (auditor.auditWith (some advisor) source language name).map (·.report) =
        (auditor.auditWith none source language name).map (·.report.markedDegraded)) ∧
      ∀ (advisor : Option Advisor) (result : AuditResult),
        auditor.auditWith advisor source language name = .ok result →
          (∀ store : Option Store, ∃ other,
            { auditor with store := store }.auditWith advisor source language name = .ok other ∧
              other.report = result.report ∧ other.rendered = result.rendered) ∧
          (result.stored = if auditor.store.isSome then [result.report.canonicalJson] else []) ∧
          (result.contentId = none ↔
            ∀ store, auditor.store = some store → store.keep result.report.canonicalJson = none) := by
  constructor
  · intro advisor fails
    exact auditWith_of_fails fails
  · intro advisor result haudit
    refine ⟨exists_auditWith_store haudit, ?_⟩
    obtain ⟨languageName, report, rendered, -, -, -, rfl⟩ := auditWith_eq_ok_iff.mp haudit
    exact ⟨rfl, Option.bind_eq_none_iff⟩

def halted : Auditor where
  registry :=
    [{ kind := "HaltedAnalyzer", name := "Halted", check := fun _ ↦ .error (.stopped "" ⟨"Exhausted", by decide⟩) }]
  store := some ⟨fun _ ↦ none⟩

def lateAdvisor : Advisor := ⟨fun _ _ ↦ .timedOut⟩

/-- An analyzer, an advisor and a store that all fail leave a report with marks. It is known by what is needed of it,
because evaluating it would hash the source. -/
theorem failures_leave_marks_only_halted :
    (lateAdvisor.judge (.str "") (.str "solidity")).Fails ∧
      ∃ bare result, halted.auditWith none (.str "") (.str "solidity") "C" = .ok bare ∧
        halted.auditWith (some lateAdvisor) (.str "") (.str "solidity") "C" = .ok result ∧
        result.report = bare.report.markedDegraded ∧
        result.report.notes =
          ["Analyzer Halted failed: Exhausted", "AI analysis unavailable; static analysis only"] ∧
        result.stored = [result.report.canonicalJson] ∧ result.contentId = none ∧
        ∃ other, { halted with store := none }.auditWith (some lateAdvisor) (.str "") (.str "solidity") "C" =
            .ok other ∧
          other.report = result.report ∧ other.rendered = result.rendered := by
  have hsupports : halted.registry.orDefault.supports (languageOr "solidity") = true := by decide +kernel
  have houtcomes : halted.outcomes (.str "") (languageOr "solidity") = .ok [.failed "Halted" "Exhausted"] := by
    rw [outcomes_eq_ok_iff, if_pos hsupports]
    exact ⟨fun _ ↦ rfl, rfl⟩
  obtain ⟨report, hreport, hvulnerabilities, hoptimizations, hnotes⟩ :
      ∃ report, halted.analyze (.str "") "solidity" none "C" false = .ok report ∧ report.tally.vulnerabilities = [] ∧
        report.tally.optimizations = [] ∧ report.notes = ["Analyzer Halted failed: Exhausted"] := by
    have hnone : (Tally.combined [.failed "Halted" "Exhausted"] []).vulnerabilities = [] := List.mergeSort_nil
    refine ⟨_, analyze_eq_ok_iff.mpr ⟨_, [], "", houtcomes, fun finding hfinding ↦ ?_, rfl, rfl, rfl⟩, hnone,
      List.mergeSort_nil, rfl⟩
    exact absurd (hnone ▸ hfinding) List.not_mem_nil
  obtain ⟨rendered, hrendered⟩ : Returns (renderAll report halted.formats) := by
    rw [returns_renderAll, hvulnerabilities, hoptimizations]
    exact fun format _ ↦ ⟨fun _ h ↦ absurd h List.not_mem_nil, fun _ h ↦ absurd h List.not_mem_nil⟩
  obtain ⟨bare, hbare, hbareReport⟩ :
      ∃ bare, halted.auditWith none (.str "") (.str "solidity") "C" = .ok bare ∧ bare.report = report :=
    ⟨_, auditWith_eq_ok_iff.mpr ⟨"solidity", report, rendered, rfl, hreport, hrendered, rfl⟩, rfl⟩
  obtain ⟨hmarked, hstore⟩ := failures_leave_marks_only halted (.str "") (.str "solidity") "C"
  have hreports := hmarked lateAdvisor trivial
  rw [hbare] at hreports
  obtain ⟨result, hresult, hsame⟩ : ∃ result, halted.auditWith (some lateAdvisor) (.str "") (.str "solidity") "C" =
      .ok result ∧ result.report = bare.report.markedDegraded := by
    cases haudit : halted.auditWith (some lateAdvisor) (.str "") (.str "solidity") "C" with
    | error error =>
      rw [haudit] at hreports
      cases hreports
    | ok result =>
      rw [haudit] at hreports
      exact ⟨result, rfl, Except.ok.inj hreports⟩
  obtain ⟨hother, hstored, hidentifier⟩ := hstore (some lateAdvisor) result hresult
  refine ⟨trivial, bare, result, hbare, hresult, hsame, ?_, hstored, ?_, hother none⟩
  · rw [hsame, hbareReport, Report.markedDegraded, hnotes]
    rfl
  · rw [hidentifier]
    intro store hkeeps
    cases hkeeps
    rfl

end Auditor

end ContractAudit
