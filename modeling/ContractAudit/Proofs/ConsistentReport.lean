import ContractAudit.Proofs.AuditReturns
import ContractAudit.Proofs.RegistryOrder
import Mathlib.Data.List.Induction

/-!
# Reports that agree with themselves

A report writes its vulnerabilities, their number, two tables of counts, a score and a risk, and each of them comes from
a computation of its own. `Report.Consistent` says of the written entries alone how they have to fit together: all of
them are determined by the listed vulnerabilities, and the optimizations enter into none. Categories have to be texts,
because other values may be equal as keys of a table and different as values.
-/

namespace ContractAudit

/-- A text is the same key as itself only. -/
theorem Value.sameKey_iff_eq {category other : Value} (h : other.isText = true) :
    category.sameKey other = true ↔ category = other := by
  constructor
  · intro same
    exact (eq_of_sameKey_of_isText h (Or.inr same)).symm
  · rintro rfl
    cases category with
    | str text => exact beq_self_eq_true text
    | _ => cases h

namespace Tally

/-! ## Counting categories -/

/-- The table has an entry for each of the categories and no other one, with the number of times that it comes. -/
structure Counts (categories : List Value) (table : List (Value × Int)) : Prop where
  distinct : (table.map Prod.fst).Nodup
  listed : ∀ category, category ∈ table.map Prod.fst ↔ category ∈ categories
  count : ∀ entry ∈ table, entry.2 = categories.countP (·.sameKey entry.1)
  sum : (table.map Prod.snd).sum = categories.length

/-- Raising a category adds one for every entry that counts it. -/
theorem sum_map_raise (category : Value) (table : List (Value × Int)) :
    ((table.map (raise category)).map Prod.snd).sum =
      (table.map Prod.snd).sum + table.countP (·.1.sameKey category) := by
  induction table with
  | nil => rfl
  | cons entry rest ih =>
    simp only [List.map_cons, List.sum_cons, List.countP_cons, ih, raise]
    split <;> push_cast <;> omega

theorem countP_sameKey_eq_one {category : Value} (htext : category.isText = true) {table : List (Value × Int)}
    (distinct : (table.map Prod.fst).Nodup) (hmem : category ∈ table.map Prod.fst) :
    table.countP (·.1.sameKey category) = 1 := by
  classical
  calc
    table.countP (·.1.sameKey category) = (table.map Prod.fst).count category := by
      rw [List.count, List.countP_map]
      apply List.countP_congr
      intro entry _
      rw [Value.sameKey_iff_eq htext, Function.comp_apply, beq_iff_eq]
    _ = 1 := List.count_eq_one_of_mem distinct hmem

section Step

variable {categories : List Value} {table : List (Value × Int)} {category : Value}

theorem any_sameKey_iff (htext : category.isText = true) :
    table.any (·.1.sameKey category) = true ↔ category ∈ table.map Prod.fst := by
  rw [List.any_eq_true, List.mem_map]
  exact exists_congr fun entry ↦ and_congr_right fun _ ↦ Value.sameKey_iff_eq htext

/-- A category that came before raises its entry. -/
theorem Counts.raise (h : Counts categories table) (texts : ∀ other ∈ categories, other.isText = true)
    (hmem : category ∈ categories) : Counts (categories ++ [category]) (table.map (raise category)) := by
  have htext := texts category hmem
  have hkeys : (table.map (Tally.raise category)).map Prod.fst = table.map Prod.fst := by
    rw [List.map_map]
    exact List.map_congr_left fun entry _ ↦ raise_fst category entry
  refine ⟨hkeys ▸ h.distinct, fun other ↦ ?_, fun raised hraised ↦ ?_, ?_⟩
  · rw [hkeys, h.listed, List.mem_append, List.mem_singleton]
    constructor
    · exact Or.inl
    · rintro (hother | rfl)
      · exact hother
      · exact hmem
  · obtain ⟨entry, hentry, rfl⟩ := List.mem_map.mp hraised
    have hentryText : entry.1.isText = true := texts _ ((h.listed entry.1).mp (List.mem_map_of_mem hentry))
    rw [raise_fst, List.countP_append, List.countP_singleton, Tally.raise]
    by_cases hsame : entry.1 = category
    · have hentrySame : entry.1.sameKey category = true := (Value.sameKey_iff_eq htext).mpr hsame
      have hcategorySame : category.sameKey entry.1 = true := (Value.sameKey_iff_eq hentryText).mpr hsame.symm
      rw [if_pos hentrySame, if_pos hcategorySame, h.count entry hentry]
      rfl
    · have hentryOther : ¬ entry.1.sameKey category = true := fun same ↦ hsame ((Value.sameKey_iff_eq htext).mp same)
      have hcategoryOther : ¬ category.sameKey entry.1 = true :=
        fun same ↦ hsame ((Value.sameKey_iff_eq hentryText).mp same).symm
      rw [if_neg hentryOther, if_neg hcategoryOther, h.count entry hentry, Nat.add_zero]
  · rw [sum_map_raise, countP_sameKey_eq_one htext h.distinct ((h.listed category).mpr hmem), h.sum, List.length_append]
    rfl

/-- A category that has not come before gets an entry of its own. -/
theorem Counts.concat (h : Counts categories table) (texts : ∀ other ∈ categories, other.isText = true)
    (htext : category.isText = true) (hnew : category ∉ categories) :
    Counts (categories ++ [category]) (table ++ [(category, 1)]) := by
  have hunlisted : category ∉ table.map Prod.fst := fun hlisted ↦ hnew ((h.listed category).mp hlisted)
  refine ⟨?_, fun other ↦ ?_, fun entry hentry ↦ ?_, ?_⟩
  · rw [List.map_append, List.map_singleton, ← List.concat_eq_append]
    exact h.distinct.concat hunlisted
  · rw [List.map_append, List.mem_append, List.mem_append, h.listed, List.map_singleton]
  · rw [List.countP_append, List.countP_singleton]
    rcases List.mem_append.mp hentry with hold | hlast
    · have hmem : entry.1 ∈ categories := (h.listed entry.1).mp (List.mem_map_of_mem hold)
      have hother : ¬ category.sameKey entry.1 = true := by
        intro same
        exact hnew ((Value.sameKey_iff_eq (texts _ hmem)).mp same ▸ hmem)
      rw [if_neg hother, h.count entry hold, Nat.add_zero]
    · obtain rfl := List.mem_singleton.mp hlast
      have hnone : categories.countP (·.sameKey category) = 0 := by
        rw [List.countP_eq_zero]
        intro other hother same
        exact hnew ((Value.sameKey_iff_eq htext).mp same ▸ hother)
      rw [hnone, if_pos ((Value.sameKey_iff_eq htext).mpr rfl)]
      rfl
  · simp [h.sum]

/-- One step of the count keeps the table right. -/
theorem Counts.addCategory (h : Counts categories table) (texts : ∀ other ∈ categories, other.isText = true)
    (htext : category.isText = true) : Counts (categories ++ [category]) (addCategory table category) := by
  have hany : table.any (·.1.sameKey category) = true ↔ category ∈ categories :=
    (any_sameKey_iff htext).trans (h.listed category)
  by_cases hmem : category ∈ categories
  · rw [addCategory_of_any (hany.mpr hmem)]
    exact h.raise texts hmem
  · rw [addCategory_of_not_any (Bool.eq_false_iff.mpr fun hcounted ↦ hmem (hany.mp hcounted))]
    exact h.concat texts htext hmem

end Step

/-- The count of a whole list of texts. -/
theorem counts_foldl {categories : List Value} (texts : ∀ category ∈ categories, category.isText = true) :
    Counts categories (categories.foldl addCategory []) := by
  induction categories using List.reverseRecOn with
  | nil => exact ⟨List.nodup_nil, fun _ ↦ Iff.rfl, fun _ hentry ↦ absurd hentry List.not_mem_nil, rfl⟩
  | append_singleton categories last ih =>
    have hearlier : ∀ category ∈ categories, category.isText = true :=
      fun category hcategory ↦ texts category (List.mem_append_left _ hcategory)
    rw [List.foldl_append]
    exact (ih hearlier).addCategory hearlier (texts last (List.mem_append_right _ (List.mem_singleton_self last)))

/-- No category is listed that does not come. -/
theorem Counts.pos {categories : List Value} {table : List (Value × Int)} (h : Counts categories table)
    (texts : ∀ category ∈ categories, category.isText = true) : ∀ entry ∈ table, 0 < entry.2 := by
  intro entry hentry
  have hmem : entry.1 ∈ categories := (h.listed entry.1).mp (List.mem_map_of_mem hentry)
  rw [h.count entry hentry, Int.natCast_pos, List.countP_pos_iff]
  exact ⟨entry.1, hmem, (Value.sameKey_iff_eq (texts _ hmem)).mpr rfl⟩

/-- Merging brings in no categories of its own. -/
theorem isText_of_mem_combined {outcomes : List Outcome} {model : List Finding}
    (texts : ∀ finding ∈ Outcome.reported outcomes, finding.category.isText = true)
    (modelTexts : ∀ finding ∈ model, finding.category.isText = true) :
    ∀ finding ∈ (combined outcomes model).vulnerabilities, finding.category.isText = true := by
  rw [forall_mem_combined_iff]
  constructor
  · intro finding hfinding
    exact texts finding ((unique_sublist _).subset hfinding)
  · intro finding hfinding
    obtain ⟨original, horiginal, rfl⟩ := List.mem_map.mp ((dropRepeated_sublist _ _).subset hfinding)
    exact modelTexts original horiginal

end Tally

namespace Report

def levelCount (report : Report) (severity : Severity) : Int :=
  (report.tally.vulnerabilities.countP (·.severity == severity) : Nat)

/-- The most severe level that a vulnerability has, or the least level when there are none. -/
def MostSevere (report : Report) (risk : Severity) : Prop :=
  (report.levelCount risk ≠ 0 ∧ ∀ severity, report.levelCount severity ≠ 0 → risk.rank ≤ severity.rank) ∨
    risk = .low ∧ ∀ severity, report.levelCount severity = 0

/-- What a report writes about its vulnerabilities agrees with the vulnerabilities that it lists. -/
structure Consistent (report : Report) : Prop where
  /-- No name is written twice. -/
  names : (report.toEntries.map Prod.fst).Nodup
  vulnerabilities : ("vulnerabilities", .list (report.tally.vulnerabilities.map (·.toValue))) ∈ report.toEntries
  total : ("totalVulnerabilities", .int report.tally.vulnerabilities.length) ∈ report.toEntries
  severityCounts : ("severityCounts", .object
    [("CRITICAL", .int (report.levelCount .critical)), ("HIGH", .int (report.levelCount .high)),
      ("MEDIUM", .int (report.levelCount .medium)), ("LOW", .int (report.levelCount .low))]) ∈ report.toEntries
  severitySum : report.levelCount .critical + report.levelCount .high + report.levelCount .medium +
    report.levelCount .low = report.tally.vulnerabilities.length
  categoryCounts : ∃ table,
    ("categoryCounts", .map (table.map fun entry ↦ (entry.1, .int entry.2))) ∈ report.toEntries ∧
      Tally.Counts (report.tally.vulnerabilities.map (·.category)) table ∧ ∀ entry ∈ table, 0 < entry.2
  points : ("securityScore", .int (max 0 (100 - 25 * report.levelCount .critical - 15 * report.levelCount .high
    - 10 * report.levelCount .medium - 5 * report.levelCount .low))) ∈ report.toEntries
  risk : ∃ risk, ("overallRisk", .str risk.label) ∈ report.toEntries ∧ report.MostSevere risk

/-! ## The parts of a report -/

def fixedNames : List String :=
  ["securityScore", "overallRisk", "totalVulnerabilities", "vulnerabilities", "severityCounts", "categoryCounts",
    "optimizations", "degraded", "notes"]

/-- A report writes nothing under one name twice. Each of the last four entries may be missing. -/
theorem nodup_names_toEntries (report : Report) : (report.toEntries.map Prod.fst).Nodup := by
  have hsublist : (report.toEntries.map Prod.fst).Sublist
      (fixedNames ++ ["metadata"] ++ ["contractHash"] ++ ["summary"] ++ ["recommendations"]) := by
    unfold toEntries
    simp only [List.map_append]
    apply List.Sublist.append
    · apply List.Sublist.append
      · apply List.Sublist.append
        · apply List.Sublist.append
          · exact List.Sublist.refl _
          · split <;> simp
        · split <;> simp
      · split <;> simp
    · split <;> simp
  exact hsublist.nodup (by decide)

theorem levelCount_sum (report : Report) :
    report.levelCount .critical + report.levelCount .high + report.levelCount .medium + report.levelCount .low =
      report.tally.vulnerabilities.length := by
  have hsum := Severity.sum_weight_by_level (fun _ ↦ 1) report.tally.vulnerabilities
  simp [Severity.all] at hsum
  simp only [levelCount]
  omega

/-- The points follow from how many vulnerabilities there are of each level. -/
theorem pointsOf_eq_levelCount (report : Report) :
    Score.pointsOf Score.standardDeductions report.tally.vulnerabilities =
      max 0 (100 - 25 * report.levelCount .critical - 15 * report.levelCount .high
        - 10 * report.levelCount .medium - 5 * report.levelCount .low) := by
  have hsum := Severity.sum_weight_by_level (Score.deduction Score.standardDeductions) report.tally.vulnerabilities
  have hcritical : Score.deduction Score.standardDeductions .critical = 25 := rfl
  have hhigh : Score.deduction Score.standardDeductions .high = 15 := rfl
  have hmedium : Score.deduction Score.standardDeductions .medium = 10 := rfl
  have hlow : Score.deduction Score.standardDeductions .low = 5 := rfl
  simp only [Severity.all, List.map_cons, List.map_nil, List.sum_cons, List.sum_nil, hcritical, hhigh, hmedium,
    hlow] at hsum
  rw [Score.pointsOf_eq, hsum]
  simp only [levelCount]
  omega

/-- The risk is the most severe level of a vulnerability. -/
theorem mostSevere_riskOf (report : Report) : report.MostSevere (Score.riskOf report.tally.vulnerabilities) := by
  have hpresent : ∀ severity, report.levelCount severity ≠ 0 ↔
      severity ∈ report.tally.vulnerabilities.map (·.severity) := by
    intro severity
    rw [levelCount, Int.natCast_ne_zero, Severity.countP_ne_zero_iff]
  unfold MostSevere Score.riskOf
  cases hworst : Severity.worst? (report.tally.vulnerabilities.map (·.severity)) with
  | none =>
    have hnone := Severity.worst?_eq_none_iff.mp hworst
    refine Or.inr ⟨rfl, fun severity ↦ ?_⟩
    by_contra hcount
    have hmem := (hpresent severity).mp hcount
    rw [hnone] at hmem
    exact List.not_mem_nil hmem
  | some severity =>
    left
    simp only [hpresent]
    exact Severity.worst?_eq_some_iff.mp hworst

/-- A report whose tables and score were computed from its vulnerabilities is consistent. -/
theorem consistent_of_computed {report : Report}
    (texts : ∀ finding ∈ report.tally.vulnerabilities, finding.category.isText = true)
    (hseverities : report.tally.severityCounts = Tally.countBySeverity report.tally.vulnerabilities)
    (hcategories : report.tally.categoryCounts =
      (report.tally.vulnerabilities.map (·.category)).foldl Tally.addCategory [])
    (hscore : report.score = Score.ofFindings [] report.tally.vulnerabilities) : report.Consistent := by
  have hcategoryTexts : ∀ category ∈ report.tally.vulnerabilities.map (·.category), category.isText = true :=
    List.forall_mem_map.mpr texts
  have hcounts := Tally.counts_foldl hcategoryTexts
  have hpoints : report.score.points = max 0 (100 - 25 * report.levelCount .critical - 15 * report.levelCount .high
      - 10 * report.levelCount .medium - 5 * report.levelCount .low) := by
    rw [hscore]
    exact report.pointsOf_eq_levelCount
  have hrisk : report.MostSevere report.score.risk := by
    rw [hscore]
    exact report.mostSevere_riskOf
  exact
    { names := report.nodup_names_toEntries
      vulnerabilities := by simp [toEntries, Tally.toEntries]
      total := by simp [toEntries, Tally.total]
      severityCounts := by
        simp [toEntries, Tally.toEntries, hseverities, Tally.countBySeverity, Severity.all, Severity.label, levelCount]
      severitySum := report.levelCount_sum
      categoryCounts := by
        refine ⟨_, ?_, hcounts, hcounts.pos hcategoryTexts⟩
        simp [toEntries, Tally.toEntries, hcategories]
      points := by
        rw [← hpoints]
        simp [toEntries, Score.toEntries]
      risk := by
        refine ⟨report.score.risk, ?_, hrisk⟩
        simp [toEntries, Score.toEntries] }

/-- A report on merged findings with texts for categories is consistent. -/
theorem consistent_of_combined {report : Report} {outcomes : List Outcome} {model : List Finding}
    (texts : ∀ finding ∈ Outcome.reported outcomes, finding.category.isText = true)
    (modelTexts : ∀ finding ∈ model, finding.category.isText = true)
    (htally : report.tally = Tally.combined outcomes model)
    (hscore : report.score = Score.ofFindings [] (Tally.combined outcomes model).vulnerabilities) :
    report.Consistent := by
  apply consistent_of_computed
  · rw [htally]
    exact Tally.isText_of_mem_combined texts modelTexts
  · rw [htally]
    rfl
  · rw [htally]
    rfl
  · rw [htally]
    exact hscore

end Report

/-! ## Audits -/

namespace Advisor

theorem Answer.exists_read_of_readValue {value : Value} {answer : Answer} (h : Answer.readValue value = .ok answer) :
    ∃ text, Answer.read text = .ok answer := by
  unfold Answer.readValue at h
  split at h
  · exact ⟨_, h⟩
  · split at h
    · cases h
    · exact ⟨[], h⟩

theorem Answer.isText_of_mem_findings {text : List Char} {answer : Answer} (h : Answer.read text = .ok answer)
    {finding : Finding} (hfinding : finding ∈ answer.findings) : finding.category.isText = true := by
  obtain ⟨value, hvalue⟩ := Answer.exists_of_mem_findings h hfinding
  exact (isText_of_finding?_eq_some hvalue).1

end Advisor

namespace Auditor

theorem exists_read_of_usable {model : Model} {source language : Value} {answer : Advisor.Answer}
    (h : (model.advisor.judge source language).usable.1 = some answer) :
    ∃ text, Advisor.Answer.read text = .ok answer := by
  unfold Model.advisor at h
  dsimp only at h
  split at h
  · split at h
    · next given hread =>
      dsimp only [Opinion.usable] at h
      split at h
      · cases h
      · cases h
        exact Advisor.Answer.exists_read_of_readValue hread
    · cases h
  · cases h
  · cases h

/-- Whatever a model answers, the categories of its findings are texts. -/
theorem isText_of_mem_consultation {auditor : Auditor} {source language : Value} {finding : Finding}
    (h : finding ∈ ((auditor.consultation source language).1.map (·.findings)).getD []) :
    finding.category.isText = true := by
  unfold consultation at h
  cases hmodel : auditor.model with
  | none =>
    rw [hmodel] at h
    exact absurd h List.not_mem_nil
  | some model =>
    rw [hmodel] at h
    dsimp only [Option.map_some, consult] at h
    cases hanswer : (model.advisor.judge source language).usable.1 with
    | none =>
      rw [hanswer] at h
      exact absurd h List.not_mem_nil
    | some answer =>
      rw [hanswer] at h
      obtain ⟨text, hread⟩ := exists_read_of_usable hanswer
      exact Advisor.Answer.isText_of_mem_findings hread h

/-- Every report is consistent. Outcomes and findings of a model whose categories are texts are always merged, and a
report on them with the standard deductions agrees with itself in all its entries. An audit whose analyzers report in
such categories returns such a report, whatever its model answers. -/
theorem reports_consistent :
    (∀ (outcomes : List Outcome) (model : List Finding),
      (∀ finding ∈ Outcome.reported outcomes, finding.category.isText = true) →
      (∀ finding ∈ model, finding.category.isText = true) →
        ∃ tally, Tally.ofOutcomes (outcomes.map .proper) (model.map .proper) = .ok tally ∧
          ∀ report : Report, report.tally = tally → report.score = Score.ofFindings [] tally.vulnerabilities →
            report.Consistent) ∧
      ∀ (auditor : Auditor) (source language : Value) (name : String) (result : AuditResult),
        auditor.deductions = [] →
        (∀ finding ∈ Outcome.reported (auditor.registry.orDefault.run source), finding.category.isText = true) →
        auditor.audit source language name = .ok result → result.report.Consistent := by
  constructor
  · intro outcomes model texts modelTexts
    have hcountable : (Tally.combined outcomes model).Countable := fun finding hfinding ↦
      Value.hashable_of_isText (Tally.isText_of_mem_combined texts modelTexts finding hfinding)
    refine ⟨_, Tally.ofOutcomes_of_countable hcountable, fun report htally hscore ↦ ?_⟩
    exact Report.consistent_of_combined texts modelTexts htally hscore
  · intro auditor source language name result hdeductions texts haudit
    obtain ⟨languageName, report, rendered, -, hreport, -, rfl⟩ := audit_eq_ok_iff.mp haudit
    obtain ⟨outcomes, notes, text, houtcomes, -, -, -, rfl⟩ := analyze_eq_ok_iff.mp hreport
    have hreported : ∀ finding ∈ Outcome.reported outcomes, finding.category.isText = true := by
      rw [(outcomes_eq_ok_iff.mp houtcomes).2]
      split
      · exact texts
      · exact fun finding hfinding ↦ absurd hfinding List.not_mem_nil
    refine Report.consistent_of_combined hreported (fun finding ↦ isText_of_mem_consultation) rfl ?_
    rw [← hdeductions]
    rfl

def callThenDestruct : String := "a.call(b);\nselfdestruct(owner);"

def modelFinding : Finding where
  category := .str "Unchecked Call"
  severity := .medium
  description := .str "The result of the call is lost"
  line := some (.ofIndex 0)
  origin := .ai
  named := rfl

theorem reports_consistent_callThenDestruct :
    (∃ tally, Tally.ofOutcomes ((Registry.default.run (.str callThenDestruct)).map .proper) [.proper modelFinding] =
        .ok tally ∧
      ∀ report : Report, report.tally = tally → report.score = Score.ofFindings [] tally.vulnerabilities →
        report.Consistent) ∧
      ∃ result, ({} : Auditor).audit (.str callThenDestruct) (.str "solidity") "C" = .ok result ∧
        result.report.Consistent := by
  have htexts : ∀ finding ∈ Outcome.reported (Registry.default.run (.str callThenDestruct)),
      finding.category.isText = true := by
    rw [Registry.default_eq_ofEntries]
    exact fun finding ↦ Registry.isText_of_mem_reported
  constructor
  · exact reports_consistent.1 _ [modelFinding] htexts (List.forall_mem_singleton.mpr rfl)
  · obtain ⟨entries, houtcomes, -⟩ := @outcomes_default {} callThenDestruct "solidity" rfl rfl
    obtain ⟨result, haudit⟩ := (returns_audit_iff_of_ofEntries "C" houtcomes rfl).mpr
      ⟨by simp, fun finding hfinding ↦ absurd hfinding List.not_mem_nil⟩
    exact ⟨result, haudit, reports_consistent.2 {} _ _ _ result rfl htexts haudit⟩

end Auditor

end ContractAudit
