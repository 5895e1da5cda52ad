import ContractAudit.Proofs.AuditReturns
import ContractAudit.Proofs.Scoring

/-!
# What a language model cannot do

The findings of a language model come after those of the analyzers, so they can only add to a report. An audit with a
model is compared with the audit of the same source without one: nothing that the analyzers found is missing, changed or
moved, and the verdict is at least as severe.
-/

namespace ContractAudit

theorem Outcome.origin_of_mem_reported {outcomes : List Outcome} {finding : Finding}
    (h : finding ∈ Outcome.reported outcomes) : finding.origin = .static := by
  obtain ⟨outcome, -, hfinding⟩ := List.mem_flatMap.mp h
  obtain ⟨original, -, rfl⟩ := List.mem_map.mp hfinding
  rfl

namespace Tally

/-- The findings of the analyzers stay as they are, whatever a model adds. -/
theorem filter_static_combined (outcomes : List Outcome) (model : List Finding) :
    (combined outcomes model).vulnerabilities.filter (·.origin == .static) =
      (combined outcomes []).vulnerabilities := by
  have hstatic : (unique (Outcome.reported outcomes)).filter (·.origin == .static) =
      unique (Outcome.reported outcomes) := by
    rw [List.filter_eq_self]
    intro finding hfinding
    rw [Outcome.origin_of_mem_reported ((unique_sublist _).subset hfinding)]
    rfl
  have hmodel : (dropRepeated ((Outcome.reported outcomes).map Finding.key)
      (model.map (·.fromModel))).filter (·.origin == .static) = [] := by
    rw [List.filter_eq_nil_iff]
    intro finding hfinding
    obtain ⟨original, -, rfl⟩ := List.mem_map.mp ((dropRepeated_sublist _ _).subset hfinding)
    simp [Finding.fromModel]
  calc
    (combined outcomes model).vulnerabilities.filter (·.origin == .static) =
        ranked ((unique (Outcome.reported outcomes) ++ dropRepeated ((Outcome.reported outcomes).map Finding.key)
          (model.map (·.fromModel))).filter (·.origin == .static)) := by
      rw [vulnerabilities_combined, filter_ranked]
    _ = ranked (unique (Outcome.reported outcomes)) := by
      rw [List.filter_append, hstatic, hmodel, List.append_nil]
    _ = (combined outcomes []).vulnerabilities := by
      rw [combined, List.map_nil, List.append_nil]

/-- What the analyzers reported stays in its order when a model adds to it. -/
theorem combined_sublist (outcomes : List Outcome) (model : List Finding) :
    (combined outcomes []).vulnerabilities.Sublist (combined outcomes model).vulnerabilities := by
  rw [← filter_static_combined outcomes model]
  exact List.filter_sublist

end Tally

namespace Auditor

/-- Whatever report an audit with a model renders, the audit without one renders its own. -/
theorem returns_renderAll_combined {formats : List ReportFormat} {bare report : Report} {outcomes : List Outcome}
    {model : List Finding} (hbare : bare.tally = Tally.combined outcomes [])
    (hreport : report.tally = Tally.combined outcomes model) (h : Returns (renderAll report formats)) :
    Returns (renderAll bare formats) := by
  rw [returns_renderAll, hreport] at h
  rw [returns_renderAll, hbare]
  intro format hformat
  obtain ⟨hshows, hlists⟩ := h format hformat
  exact ⟨fun finding hfinding ↦ hshows finding ((Tally.combined_sublist outcomes model).subset hfinding), hlists⟩

/-- A language model cannot hide, change or soften what the analyzers found. Whenever an audit with a model and the
standard deductions returns, so does the audit without the model. The findings of the analyzers in the first report are
the vulnerabilities of the second, in their order, and the optimizations agree; every count by severity is at least as
high, the points are at most as many, and the risk is at least as severe. -/
theorem model_only_adds (auditor : Auditor) (model : Model) (source language : Value) (name : String)
    (result : AuditResult)
    (audited : { auditor with model := some model, deductions := [] }.audit source language name = .ok result) :
    ∃ bare, { auditor with model := none, deductions := [] }.audit source language name = .ok bare ∧
      result.report.tally.vulnerabilities.filter (·.origin == .static) = bare.report.tally.vulnerabilities ∧
      result.report.tally.optimizations = bare.report.tally.optimizations ∧
      List.Forall₂ (fun low high : String × Int ↦ low.1 = high.1 ∧ low.2 ≤ high.2)
        bare.report.tally.severityCounts result.report.tally.severityCounts ∧
      result.report.score.points ≤ bare.report.score.points ∧
      result.report.score.risk.rank ≤ bare.report.score.risk.rank := by
  obtain ⟨languageName, report, rendered, hlanguage, hreport, hrendered, rfl⟩ := audit_eq_ok_iff.mp audited
  obtain ⟨outcomes, notes, text, houtcomes, hcountable, -, rfl, rfl⟩ := analyze_eq_ok_iff.mp hreport
  let alone : Auditor := { auditor with model := none, deductions := [] }
  let bareReport := alone.reportOn text (languageOr languageName) outcomes none name false []
  have hsublist := Tally.combined_sublist outcomes
    ((({ auditor with model := some model, deductions := [] : Auditor }.consultation
      (.str text) language).1.map (·.findings)).getD [])
  have hbareReport : alone.analyze (.str text) languageName none name false = .ok bareReport :=
    analyze_eq_ok_iff.mpr ⟨outcomes, [], text, houtcomes,
      fun finding hfinding ↦ hcountable finding (hsublist.subset hfinding), rfl, rfl, rfl⟩
  obtain ⟨bareRendered, hbareRendered⟩ : Returns (renderAll bareReport alone.formats) :=
    returns_renderAll_combined rfl rfl ⟨rendered, hrendered⟩
  refine ⟨_, audit_eq_ok_iff.mpr ⟨languageName, bareReport, bareRendered, hlanguage, hbareReport, hbareRendered, rfl⟩,
    Tally.filter_static_combined outcomes _, rfl, Tally.countBySeverity_le_of_sublist hsublist, ?_, ?_⟩
  · exact Score.pointsOf_le_of_sublist Score.standardDeductions_nonneg hsublist
  · exact Score.rank_riskOf_le_of_subset hsublist.subset

def originUse : String := "contract C \x7b\n  function pay() public \x7b emit Paid(tx.origin); \x7d\n\x7d"

def mildAnswer : String :=
  "\x7b\"vulnerabilities\": [\x7b\"type\": \"tx.origin Usage\", \"severity\": \"INFO\", \"line\": 2\x7d]\x7d"

theorem model_only_adds_to_originUse :
    ∃ result, { model := some (.answering mildAnswer) : Auditor }.audit (.str originUse) (.str "solidity") "C" =
        .ok result ∧
      ∃ bare, ({} : Auditor).audit (.str originUse) (.str "solidity") "C" = .ok bare ∧
        result.report.tally.vulnerabilities.filter (·.origin == .static) = bare.report.tally.vulnerabilities ∧
        result.report.tally.optimizations = bare.report.tally.optimizations ∧
        List.Forall₂ (fun low high : String × Int ↦ low.1 = high.1 ∧ low.2 ≤ high.2)
          bare.report.tally.severityCounts result.report.tally.severityCounts ∧
        result.report.score.points ≤ bare.report.score.points ∧
        result.report.score.risk.rank ≤ bare.report.score.risk.rank := by
  have hread : Advisor.Answer.read mildAnswer.toList = .ok { findings :=
      [{ category := .str "tx.origin Usage", severity := .low, description := .str "", line := some ⟨2, by decide⟩,
         origin := .ai, named := rfl }] } := rfl
  have hreturns : Returns ({ model := some (.answering mildAnswer) : Auditor }.audit (.str originUse)
      (.str "solidity") "C") := by
    refine (returns_audit_iff_of_read rfl rfl rfl "C" hread rfl).mpr ⟨nofun, fun finding hfinding format _ ↦ ?_⟩
    have hmem := (Tally.dropRepeated_sublist _ _).subset hfinding
    rw [List.map_cons, List.map_nil, List.mem_singleton] at hmem
    subst hmem
    exact ⟨fun _ ↦ rfl, fun _ ↦ rfl⟩
  obtain ⟨result, audited⟩ := hreturns
  exact ⟨result, audited, model_only_adds {} _ _ _ _ result audited⟩

end Auditor

end ContractAudit
