import ContractAudit.Proofs.AuditReturns

/-!
# Analyzers that do not matter

An analyzer that is stopped by a fault, or that finds no vulnerabilities, can stand anywhere in a registry without
touching the verdict of the others. A fault leaves one note, at the place that the analyzer has among the analyzers with
faults, and nothing else. Advice, such as that of the analyzer for gas, changes the optimizations only.
-/

namespace ContractAudit

namespace Fault

theorem kind_ne_empty (fault : Fault) : fault.kind ≠ "" := by
  cases fault with
  | stopped message kind => exact kind.property
  | _ => simp [kind]

/-- The recorded text of a fault is never empty: the kind stands in for an empty message. -/
theorem description_ne_empty (fault : Fault) : fault.description ≠ "" := by
  unfold description
  by_cases hmessage : fault.message.isEmpty = true
  · rw [if_pos hmessage]
    exact fault.kind_ne_empty
  · rw [if_neg hmessage]
    exact fun hempty ↦ hmessage (String.isEmpty_iff.mpr hempty)

end Fault

/-- Whatever the analyzer says about the source, it reports no vulnerabilities; it may be stopped by a fault. -/
def Analyzer.Silent (analyzer : Analyzer) (source : Value) : Prop :=
  ∀ outcome, analyzer.check source = .ok outcome → outcome.vulnerabilities = []

namespace Registry

theorem runOne_of_error {analyzer : Analyzer} {source : Value} {fault : Fault}
    (h : analyzer.check source = .error fault) :
    runOne source analyzer = .failed analyzer.name fault.description := by
  unfold runOne
  rw [h]

theorem runOne_of_ok {analyzer : Analyzer} {source : Value} {outcome : Outcome}
    (h : analyzer.check source = .ok outcome) : runOne source analyzer = outcome := by
  unfold runOne
  rw [h]

/-- A silent analyzer adds no vulnerabilities, also when it is stopped. -/
theorem vulnerabilities_runOne_of_silent {analyzer : Analyzer} {source : Value} (silent : analyzer.Silent source) :
    (runOne source analyzer).vulnerabilities = [] := by
  cases hcheck : analyzer.check source with
  | error fault => rw [runOne_of_error hcheck, Outcome.failed]
  | ok outcome => rw [runOne_of_ok hcheck, silent outcome hcheck]

theorem run_insert (before after : Registry) (analyzer : Analyzer) (source : Value) :
    run (before ++ analyzer :: after) source = run before source ++ runOne source analyzer :: run after source := by
  simp only [run, List.map_append, List.map_cons]

theorem run_append (before after : Registry) (source : Value) :
    run (before ++ after) source = run before source ++ run after source := by
  simp only [run, List.map_append]

theorem orDefault_of_supports {registry : Registry} {language : String} (h : registry.supports language = true) :
    registry.orDefault = registry := by
  cases registry with
  | nil => cases h
  | cons analyzer rest => rfl

/-- A registry that knows a language still knows it with one more analyzer. -/
theorem supports_insert {before after : Registry} {language : String}
    (h : (before ++ after).supports language = true) (analyzer : Analyzer) :
    (before ++ analyzer :: after).supports language = true := by
  unfold supports at h ⊢
  rw [List.any_append] at h ⊢
  rw [List.any_cons, Bool.or_left_comm, h, Bool.or_true]

end Registry

/-- One analyzer fewer never needs more workers. -/
theorem Schedule.check_of_check_succ {schedule : Schedule} {analyzers : Nat}
    (h : schedule.check (analyzers + 1) = .ok ()) : schedule.check analyzers = .ok () := by
  unfold check at h ⊢
  by_cases halone : (!schedule.parallel || decide (analyzers ≤ 1)) = true
  · rw [if_pos halone]
  · have hsucc : ¬ (!schedule.parallel || decide (analyzers + 1 ≤ 1)) = true := by
      simp only [Bool.or_eq_true, Bool.not_eq_true', decide_eq_true_eq, not_or] at halone ⊢
      exact ⟨halone.1, fun hle ↦ halone.2 (by omega)⟩
    rw [if_neg hsucc] at h
    rw [if_neg halone, h]

/-! ## What an outcome adds to the others -/

namespace Outcome

variable {before after : List Outcome} {outcome : Outcome}

theorem reported_insert (h : outcome.vulnerabilities = []) :
    reported (before ++ outcome :: after) = reported (before ++ after) := by
  simp only [reported, List.flatMap_append, List.flatMap_cons, h, List.map_nil, List.nil_append]

theorem advised_insert :
    advised (before ++ outcome :: after) =
      advised before ++ outcome.issues.map (·.reportedBy outcome.analyzer) ++ advised after := by
  simp only [advised, List.flatMap_append, List.flatMap_cons, List.append_assoc]

theorem advised_append : advised (before ++ after) = advised before ++ advised after := by
  simp only [advised, List.flatMap_append]

theorem advised_insert_of_no_issues (h : outcome.issues = []) :
    advised (before ++ outcome :: after) = advised (before ++ after) := by
  rw [advised_insert, advised_append, h, List.map_nil, List.append_nil]

end Outcome

namespace Tally

/-- The more keys were seen before, the fewer findings are left. -/
theorem dropRepeated_sublist_of_subset {seen other : List String} (h : seen ⊆ other) (findings : List Finding) :
    (dropRepeated other findings).Sublist (dropRepeated seen findings) := by
  induction findings generalizing seen other with
  | nil => exact List.Sublist.refl []
  | cons finding rest ih =>
    by_cases hseen : finding.key ∈ seen
    · rw [dropRepeated, dropRepeated, if_pos (List.contains_iff_mem.mpr hseen),
        if_pos (List.contains_iff_mem.mpr (h hseen))]
      exact ih h
    · rw [dropRepeated.eq_2 seen, if_neg (fun hcontains ↦ hseen (List.contains_iff_mem.mp hcontains)), dropRepeated]
      split
      · next hother =>
        have hkey : finding.key :: seen ⊆ other := List.cons_subset.mpr ⟨List.contains_iff_mem.mp hother, h⟩
        exact (ih hkey).cons finding
      · exact (ih (List.cons_subset_cons _ h)).cons_cons finding

/-- Findings put between others bring in nothing but themselves. -/
theorem mem_unique_insert {before inserted after : List Finding} {finding : Finding}
    (h : finding ∈ unique (before ++ inserted ++ after)) :
    finding ∈ inserted ∨ finding ∈ unique (before ++ after) := by
  rw [unique_append, unique_append, List.mem_append, List.mem_append] at h
  rw [unique_append, List.mem_append]
  rcases h with (hbefore | hinserted) | hafter
  · exact Or.inr (Or.inl hbefore)
  · exact Or.inl ((dropRepeated_sublist _ _).subset hinserted)
  · have hkeys : before.map Finding.key ⊆ (before ++ inserted).map Finding.key := by
      rw [List.map_append]
      exact List.subset_append_left _ _
    exact Or.inr (Or.inr ((dropRepeated_sublist_of_subset hkeys after).subset hafter))

variable {before after : List Outcome} {outcome : Outcome}

/-- An outcome without vulnerabilities changes the optimizations of a tally only. -/
theorem combined_insert (h : outcome.vulnerabilities = []) (model : List Finding) :
    combined (before ++ outcome :: after) model =
      { combined (before ++ after) model with
        optimizations := ranked (unique (Outcome.advised (before ++ outcome :: after))) } := by
  unfold combined
  rw [Outcome.reported_insert h]

/-- Whatever is new among the optimizations is an issue of the analyzer that was put in. -/
theorem mem_optimizations_insert {model : List Finding} {finding : Finding}
    (h : finding ∈ (combined (before ++ outcome :: after) model).optimizations) :
    finding ∈ (combined (before ++ after) model).optimizations ∨
      ∃ issue ∈ outcome.issues, finding = issue.reportedBy outcome.analyzer := by
  unfold combined at h ⊢
  rw [mem_ranked, Outcome.advised_insert] at h
  rw [mem_ranked, Outcome.advised_append]
  rcases mem_unique_insert h with hinserted | hkept
  · obtain ⟨issue, hissue, rfl⟩ := List.mem_map.mp hinserted
    exact Or.inr ⟨issue, hissue, rfl⟩
  · exact Or.inl hkept

end Tally

/-! ## Reports with one analyzer more -/

/-- What an analyzer that reports no vulnerabilities makes of a report when it is put behind the analyzers `before`. The
verdict stays, and so does all else but the optimizations and the notes; only the issues of the analyzer are new among
the optimizations. A fault leaves the optimizations and adds one note, behind the notes on the faults of `before`. -/
structure Report.Isolates (report : Report) (before : Registry) (analyzer : Analyzer) (source : Value)
    (extended : Report) : Prop where
  vulnerabilities : extended.tally.vulnerabilities = report.tally.vulnerabilities
  severityCounts : extended.tally.severityCounts = report.tally.severityCounts
  categoryCounts : extended.tally.categoryCounts = report.tally.categoryCounts
  score : extended.score = report.score
  others : extended = { report with tally := extended.tally, notes := extended.notes }
  optimizations : ∀ finding ∈ extended.tally.optimizations, finding ∈ report.tally.optimizations ∨
    ∃ outcome, analyzer.check source = .ok outcome ∧
      ∃ issue ∈ outcome.issues, finding = issue.reportedBy outcome.analyzer
  fault : ∀ fault, analyzer.check source = .error fault →
    extended.tally.optimizations = report.tally.optimizations ∧ fault.description ≠ "" ∧
      ∃ later, report.notes = Auditor.faultNotes (before.run source) ++ later ∧
        extended.notes = Auditor.faultNotes (before.run source) ++
          ("Analyzer " ++ analyzer.name ++ " failed: " ++ fault.description) :: later

namespace Auditor

theorem faultNotes_append (outcomes others : List Outcome) :
    faultNotes (outcomes ++ others) = faultNotes outcomes ++ faultNotes others := by
  simp only [faultNotes, List.filter_append, List.map_append]

/-- A failed outcome is noted. -/
theorem faultNotes_failed_cons {name text : String} (h : text ≠ "") (outcomes : List Outcome) :
    faultNotes (.failed name text :: outcomes) =
      ("Analyzer " ++ name ++ " failed: " ++ text) :: faultNotes outcomes := by
  have hfaulted : (Outcome.failed name text).faulted = true := by
    simpa [Outcome.faulted, Outcome.failed, String.isEmpty_iff] using h
  unfold faultNotes
  rw [List.filter_cons_of_pos hfaulted, List.map_cons]
  rfl

variable {auditor : Auditor} {before after : Registry} {analyzer : Analyzer} {source : Value} {language name : String}

theorem check_insert (workers : auditor.schedule.check ((before ++ after).length + 1) = .ok ()) :
    auditor.schedule.check (before ++ analyzer :: after).length = .ok () := by
  rwa [List.length_append, List.length_cons, ← Nat.add_assoc, ← List.length_append]

/-- The outcomes of a registry that knows the language. -/
theorem outcomes_of_supports {registry : Registry} (supported : registry.supports language = true)
    (workers : auditor.schedule.check registry.length = .ok ()) :
    { auditor with registry := registry }.outcomes source language = .ok (registry.run source) := by
  rw [outcomes_eq_ok_iff]
  simp only [Registry.orDefault_of_supports supported]
  exact ⟨fun _ ↦ workers, by rw [if_pos supported]⟩

/-- What was put in is isolated in the report, whatever the answer and the notes are. -/
theorem isolates_reportOn (silent : analyzer.Silent source) (text : String) (answer : Option Advisor.Answer)
    (degraded : Bool) (notes : List String) :
    ({ auditor with registry := before ++ after }.reportOn text language
        (Registry.run (before ++ after) source) answer name degraded notes).Isolates before analyzer source
      ({ auditor with registry := before ++ analyzer :: after }.reportOn text language
        (Registry.run (before ++ analyzer :: after) source) answer name degraded notes) := by
  have hcombined := @Tally.combined_insert (Registry.run before source) (Registry.run after source) _
    (Registry.vulnerabilities_runOne_of_silent silent) ((answer.map (·.findings)).getD [])
  rw [Registry.run_append, Registry.run_insert]
  unfold reportOn
  refine
    { vulnerabilities := by rw [hcombined]
      severityCounts := by rw [hcombined]
      categoryCounts := by rw [hcombined]
      score := by rw [hcombined]
      others := by simp only [hcombined]
      optimizations := fun finding hfinding ↦ ?_
      fault := fun fault hfault ↦ ⟨?_, fault.description_ne_empty, ?_⟩ }
  · refine (Tally.mem_optimizations_insert hfinding).imp_right fun ⟨issue, hissue, heq⟩ ↦ ?_
    cases hcheck : analyzer.check source with
    | error fault =>
      rw [Registry.runOne_of_error hcheck] at hissue
      exact absurd hissue List.not_mem_nil
    | ok outcome =>
      rw [Registry.runOne_of_ok hcheck] at hissue heq
      exact ⟨outcome, rfl, issue, hissue, heq⟩
  · have hissues : (Registry.runOne source analyzer).issues = [] := by
      rw [Registry.runOne_of_error hfault, Outcome.failed]
    unfold Tally.combined
    rw [Outcome.advised_insert_of_no_issues hissues]
  · refine ⟨faultNotes (Registry.run after source) ++ notes, ?_, ?_⟩
    · rw [faultNotes_append, List.append_assoc]
    · rw [faultNotes_append, Registry.runOne_of_error hfault, faultNotes_failed_cons fault.description_ne_empty,
        List.append_assoc, List.cons_append]

/-- One silent analyzer more leaves an analysis with a report, which differs as stated. -/
theorem exists_analyze_insert (supported : Registry.supports (before ++ after) (languageOr language) = true)
    (workers : auditor.schedule.check ((before ++ after).length + 1) = .ok ())
    (silent : analyzer.Silent source) {answer : Option Advisor.Answer} {degraded : Bool} {report : Report}
    (h : { auditor with registry := before ++ after }.analyze source language answer name degraded = .ok report) :
    ∃ extended, { auditor with registry := before ++ analyzer :: after }.analyze source language answer name degraded =
        .ok extended ∧ report.Isolates before analyzer source extended := by
  obtain ⟨outcomes, notes, text, houtcomes, hcountable, hnotes, rfl, rfl⟩ := analyze_eq_ok_iff.mp h
  have hrun : outcomes = Registry.run (before ++ after) (.str text) :=
    Except.ok.inj (houtcomes.symm.trans (outcomes_of_supports supported (Schedule.check_of_check_succ workers)))
  subst hrun
  have hvulnerabilities : ∀ model,
      (Tally.combined (Registry.run (before ++ analyzer :: after) (.str text)) model).vulnerabilities =
        (Tally.combined (Registry.run (before ++ after) (.str text)) model).vulnerabilities := by
    intro model
    rw [Registry.run_insert, Registry.run_append,
      Tally.combined_insert (Registry.vulnerabilities_runOne_of_silent silent)]
  refine ⟨_, analyze_eq_ok_iff.mpr ⟨_, notes, text,
    outcomes_of_supports (Registry.supports_insert supported analyzer) (check_insert workers), ?_, ?_, rfl, rfl⟩,
    isolates_reportOn silent text answer degraded notes⟩
  · unfold Tally.Countable at hcountable ⊢
    rwa [hvulnerabilities]
  · rwa [hvulnerabilities]

/-- One silent analyzer more leaves an audit with a result, as long as the formats can list its issues. -/
theorem exists_audit_insert {named : Value} (hnamed : languageName? named = some language)
    (supported : Registry.supports (before ++ after) (languageOr language) = true)
    (workers : auditor.schedule.check ((before ++ after).length + 1) = .ok ())
    (silent : analyzer.Silent source) (listed : ∀ outcome, analyzer.check source = .ok outcome →
      ∀ issue ∈ outcome.issues, ∀ format ∈ auditor.formats, format.lists issue = true) {result : AuditResult}
    (h : { auditor with registry := before ++ after }.audit source named name = .ok result) :
    ∃ extended, { auditor with registry := before ++ analyzer :: after }.audit source named name = .ok extended ∧
      result.report.Isolates before analyzer source extended.report := by
  obtain ⟨_, report, rendered, hsame, hreport, hrendered, rfl⟩ := audit_eq_ok_iff.mp h
  cases Option.some.inj (hnamed.symm.trans hsame)
  obtain ⟨extended, hextended, hisolates⟩ := exists_analyze_insert supported workers silent hreport
  have hshown := returns_renderAll.mp ⟨rendered, hrendered⟩
  obtain ⟨texts, htexts⟩ : Returns (renderAll extended auditor.formats) := by
    rw [returns_renderAll]
    intro format hformat
    obtain ⟨hshows, hlists⟩ := hshown format hformat
    refine ⟨hisolates.vulnerabilities ▸ hshows, fun finding hfinding ↦ ?_⟩
    rcases hisolates.optimizations finding hfinding with hkept | ⟨outcome, hcheck, issue, hissue, rfl⟩
    · exact hlists finding hkept
    · have hissueListed := listed outcome hcheck issue hissue format hformat
      cases format <;> exact hissueListed
  exact ⟨_, audit_eq_ok_iff.mpr ⟨language, extended, texts, hnamed, hextended, htexts, rfl⟩, hisolates⟩

end Auditor

/-! ## The analyzer for gas -/

theorem Rule.Gas.silent_analyzer (source : Value) : Rule.Gas.analyzer.Silent source := by
  intro outcome houtcome
  cases source with
  | str text =>
    cases houtcome
    rfl
  | _ => cases houtcome

theorem Rule.Gas.lists_of_mem_issues {source : Value} {outcome : Outcome}
    (h : Rule.Gas.analyzer.check source = .ok outcome) : ∀ issue ∈ outcome.issues, ∀ format : ReportFormat,
      format.lists issue = true := by
  intro issue hissue format
  cases source with
  | str text =>
    have hrun : (Registry.ofEntries [(.gas, [])]).run (.str text) = [outcome] := by
      exact congrArg (fun outcome ↦ [outcome]) (Registry.runOne_of_ok h)
    have hadvised : issue.reportedBy outcome.analyzer ∈
        Outcome.advised ((Registry.ofEntries [(.gas, [])]).run (.str text)) := by
      rw [hrun]
      exact List.mem_flatMap.mpr ⟨outcome, List.mem_singleton_self _, List.mem_map_of_mem hissue⟩
    have hlists := Registry.lists_of_mem_advised hadvised format
    cases format <;> exact hlists
  | _ => cases h

namespace Auditor

/-- An analyzer that is stopped by a fault or finds no vulnerabilities is isolated, wherever it is put into a registry
that knows the language, as long as the schedule has workers for one analyzer more. Analyses keep their reports up to
the optimizations and the notes, and so do audits whose formats can list the issues of the analyzer. The analyzer for
gas is of this kind on every source and in all formats. -/
theorem silent_analyzer_isolated (auditor : Auditor) (before after : Registry) (source named : Value)
    (language name : String) (hnamed : languageName? named = some language)
    (supported : Registry.supports (before ++ after) (languageOr language) = true)
    (workers : auditor.schedule.check ((before ++ after).length + 1) = .ok ()) :
    (∀ analyzer : Analyzer, analyzer.Silent source →
      (∀ answer degraded report,
        { auditor with registry := before ++ after }.analyze source language answer name degraded = .ok report →
          ∃ extended, { auditor with registry := before ++ analyzer :: after }.analyze source language answer name
              degraded = .ok extended ∧ report.Isolates before analyzer source extended) ∧
        ((∀ outcome, analyzer.check source = .ok outcome →
            ∀ issue ∈ outcome.issues, ∀ format ∈ auditor.formats, format.lists issue = true) →
          ∀ result, { auditor with registry := before ++ after }.audit source named name = .ok result →
            ∃ extended, { auditor with registry := before ++ analyzer :: after }.audit source named name =
                .ok extended ∧ result.report.Isolates before analyzer source extended.report)) ∧
      ∀ result, { auditor with registry := before ++ after }.audit source named name = .ok result →
        ∃ extended, { auditor with registry := before ++ Rule.Gas.analyzer :: after }.audit source named name =
            .ok extended ∧ result.report.Isolates before Rule.Gas.analyzer source extended.report := by
  refine ⟨fun analyzer silent ↦ ⟨?_, ?_⟩, ?_⟩
  · intro answer degraded report hreport
    exact exists_analyze_insert supported workers silent hreport
  · intro listed result haudit
    exact exists_audit_insert hnamed supported workers silent listed haudit
  · intro result haudit
    apply exists_audit_insert hnamed supported workers (Rule.Gas.silent_analyzer source) _ haudit
    intro outcome houtcome issue hissue format _
    exact Rule.Gas.lists_of_mem_issues houtcome issue hissue format

def ownerDestruct : String := "selfdestruct(owner);"

def muteAnalyzer : Analyzer where
  kind := "MuteAnalyzer"
  name := "mute"
  check _ := .error (.stopped "")

theorem silent_analyzer_isolated_mute :
    languageName? (.str "solidity") = some "solidity" ∧
      Registry.supports (Registry.default.take 2 ++ Registry.default.drop 2) (languageOr "solidity") = true ∧
      Schedule.check {} ((Registry.default.take 2 ++ Registry.default.drop 2).length + 1) = .ok () ∧
      muteAnalyzer.Silent (.str ownerDestruct) ∧
      ∃ result extended advised,
        ({ registry := Registry.default.take 2 ++ Registry.default.drop 2 } : Auditor).audit
            (.str ownerDestruct) (.str "solidity") "C" = .ok result ∧
          ({ registry := Registry.default.take 2 ++ muteAnalyzer :: Registry.default.drop 2 } : Auditor).audit
            (.str ownerDestruct) (.str "solidity") "C" = .ok extended ∧
          result.report.Isolates (Registry.default.take 2) muteAnalyzer (.str ownerDestruct) extended.report ∧
          "Analyzer mute failed: RuntimeError" ∈ extended.report.notes ∧
          ({ registry := Registry.default.take 2 ++ Rule.Gas.analyzer :: Registry.default.drop 2 } : Auditor).audit
            (.str ownerDestruct) (.str "solidity") "C" = .ok advised ∧
          result.report.Isolates (Registry.default.take 2) Rule.Gas.analyzer (.str ownerDestruct) advised.report := by
  have hsupported : Registry.supports (Registry.default.take 2 ++ Registry.default.drop 2) (languageOr "solidity") =
      true := by decide +kernel
  have hsilent : muteAnalyzer.Silent (.str ownerDestruct) := fun outcome houtcome ↦ by cases houtcome
  refine ⟨rfl, hsupported, rfl, hsilent, ?_⟩
  obtain ⟨entries, houtcomes, -⟩ := @outcomes_default
    { registry := Registry.default.take 2 ++ Registry.default.drop 2 } ownerDestruct "solidity"
    (List.take_append_drop 2 Registry.default) rfl
  obtain ⟨result, haudit⟩ := (returns_audit_iff_of_ofEntries "C" houtcomes rfl).mpr
    ⟨by simp, fun finding hfinding ↦ absurd hfinding List.not_mem_nil⟩
  have hisolated := silent_analyzer_isolated {} (Registry.default.take 2) (Registry.default.drop 2)
    (.str ownerDestruct) (.str "solidity") "solidity" "C" rfl hsupported rfl
  obtain ⟨extended, hextended, hmute⟩ := (hisolated.1 muteAnalyzer hsilent).2
    (fun outcome houtcome ↦ by cases houtcome) result haudit
  obtain ⟨advised, hadvised, hgas⟩ := hisolated.2 result haudit
  refine ⟨result, extended, advised, haudit, hextended, hmute, ?_, hadvised, hgas⟩
  obtain ⟨-, -, later, -, hnotes⟩ := hmute.fault (.stopped "") rfl
  rw [hnotes, List.mem_append, List.mem_cons]
  exact Or.inr (Or.inl rfl)

end Auditor

end ContractAudit
