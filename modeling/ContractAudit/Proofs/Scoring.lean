import ContractAudit.Score
import ContractAudit.Tally
import Mathlib.Algebra.Order.BigOperators.Group.List
import Mathlib.Algebra.Ring.Int.Defs
import Mathlib.Algebra.Ring.Nat
import Mathlib.Tactic.Ring

/-!
# Scores and counts of merged findings

The points, the risk and the counts by severity depend only on which findings there are and not on their order, and more
findings can only lower the points, raise the risk and raise the counts. The points are cut off once, when all findings
have been paid for, so they can be computed from the number of findings of each level, also if some levels earn points.
-/

namespace ContractAudit

namespace Severity

theorem worst?_eq_none_iff {severities : List Severity} : worst? severities = none ↔ severities = [] := by
  rw [worst?, List.find?_eq_none]
  constructor
  · intro h
    rw [List.eq_nil_iff_forall_not_mem]
    intro severity hmem
    exact h severity (mem_all severity) (List.contains_iff_mem.mpr hmem)
  · rintro rfl severity _
    simp

theorem worst?_mem {severities : List Severity} {severity : Severity} (h : worst? severities = some severity) :
    severity ∈ severities :=
  List.contains_iff_mem.mp (List.find?_some h)

/-- No level that is present has a lower rank than the worst one. -/
theorem rank_worst?_le {severities : List Severity} {severity other : Severity}
    (h : worst? severities = some severity) (hother : other ∈ severities) : severity.rank ≤ other.rank := by
  obtain ⟨-, before, after, hall, hbefore⟩ := List.find?_eq_some_iff_append.mp h
  have hsorted : (before ++ severity :: after).Pairwise fun first second ↦ first.rank < second.rank :=
    hall ▸ (by decide : all.Pairwise fun first second ↦ first.rank < second.rank)
  have hmem : other ∈ before ++ severity :: after := hall ▸ mem_all other
  rcases List.mem_append.mp hmem with hearlier | hlater
  · have habsent := hbefore other hearlier
    simp [hother] at habsent
  · rcases List.mem_cons.mp hlater with rfl | hafter
    · exact Nat.le_refl _
    · have htail := (List.pairwise_append.mp hsorted).2.1
      exact Nat.le_of_lt ((List.pairwise_cons.mp htail).1 other hafter)

/-- The worst level is the present one with the least rank. -/
theorem worst?_eq_some_iff {severities : List Severity} {severity : Severity} :
    worst? severities = some severity ↔
      severity ∈ severities ∧ ∀ other ∈ severities, severity.rank ≤ other.rank := by
  constructor
  · intro h
    exact ⟨worst?_mem h, fun _ ↦ rank_worst?_le h⟩
  · rintro ⟨hmem, hleast⟩
    cases hworst : worst? severities with
    | none =>
      rw [worst?_eq_none_iff.mp hworst] at hmem
      exact absurd hmem List.not_mem_nil
    | some found =>
      have hle := rank_worst?_le hworst hmem
      have hge := hleast found (worst?_mem hworst)
      rw [rank_injective (Nat.le_antisymm hle hge)]

/-- The worst of some levels depends on which of them come. -/
theorem worst?_congr {severities others : List Severity}
    (same : ∀ severity, severity ∈ severities ↔ severity ∈ others) : worst? severities = worst? others := by
  rw [worst?, worst?]
  congr 1
  funext severity
  rw [Bool.eq_iff_iff, List.contains_iff_mem, List.contains_iff_mem]
  exact same severity

/-- The worst of all levels is the worst of the worst levels of the parts. -/
theorem worst?_flatten (parts : List (List Severity)) :
    worst? parts.flatten = worst? (parts.filterMap worst?) := by
  cases hworst : worst? parts.flatten with
  | none =>
    symm
    rw [worst?_eq_none_iff, List.filterMap_eq_nil_iff]
    intro part hpart
    rw [worst?_eq_none_iff, List.eq_nil_iff_forall_not_mem]
    intro severity hmem
    have hflat : severity ∈ parts.flatten := List.mem_flatten.mpr ⟨part, hpart, hmem⟩
    rw [worst?_eq_none_iff.mp hworst] at hflat
    exact List.not_mem_nil hflat
  | some severity =>
    symm
    obtain ⟨part, hpart, hmem⟩ := List.mem_flatten.mp (worst?_mem hworst)
    have hinPart : worst? part = some severity := by
      rw [worst?_eq_some_iff]
      refine ⟨hmem, fun other hother ↦ ?_⟩
      exact rank_worst?_le hworst (List.mem_flatten.mpr ⟨part, hpart, hother⟩)
    rw [worst?_eq_some_iff]
    refine ⟨List.mem_filterMap.mpr ⟨part, hpart, hinPart⟩, fun other hother ↦ ?_⟩
    obtain ⟨otherPart, hotherPart, hotherWorst⟩ := List.mem_filterMap.mp hother
    exact rank_worst?_le hworst (List.mem_flatten.mpr ⟨otherPart, hotherPart, worst?_mem hotherWorst⟩)

/-! ## Counting levels -/

/-- What findings weigh together can be computed level by level. -/
theorem sum_weight_by_level (weight : Severity → Int) (findings : List Finding) :
    (findings.map fun finding ↦ weight finding.severity).sum =
      (all.map fun severity ↦ weight severity * findings.countP (·.severity == severity)).sum := by
  induction findings with
  | nil => simp [all]
  | cons finding rest ih =>
    rw [List.map_cons, List.sum_cons, ih]
    simp only [all, List.map_cons, List.map_nil, List.sum_cons, List.sum_nil, List.countP_cons]
    cases finding.severity <;> simp <;> ring

theorem countP_ne_zero_iff {findings : List Finding} {severity : Severity} :
    findings.countP (·.severity == severity) ≠ 0 ↔ severity ∈ findings.map (·.severity) := by
  rw [← Nat.pos_iff_ne_zero, List.countP_pos_iff, List.mem_map]
  simp

end Severity

namespace Score

/-! ## Points -/

theorem foldl_deduction (deductions : Deductions) (findings : List Finding) (score : Int) :
    findings.foldl (fun score finding ↦ score - deduction deductions finding.severity) score =
      score - (findings.map fun finding ↦ deduction deductions finding.severity).sum := by
  induction findings generalizing score with
  | nil => simp
  | cons finding rest ih =>
    rw [List.foldl_cons, ih, List.map_cons, List.sum_cons]
    omega

/-- The points are what the deductions leave of a hundred, within bounds. -/
theorem pointsOf_eq (deductions : Deductions) (findings : List Finding) :
    pointsOf deductions findings =
      max 0 (min 100 (100 - (findings.map fun finding ↦ deduction deductions finding.severity).sum)) := by
  rw [pointsOf, foldl_deduction]

theorem pointsOf_mem_range (deductions : Deductions) (findings : List Finding) :
    0 ≤ pointsOf deductions findings ∧ pointsOf deductions findings ≤ 100 := by
  rw [pointsOf_eq]
  omega

theorem pointsOf_perm (deductions : Deductions) {findings others : List Finding} (h : findings.Perm others) :
    pointsOf deductions findings = pointsOf deductions others := by
  rw [pointsOf_eq, pointsOf_eq, (h.map _).sum_eq]

/-- More findings never leave more points, as long as no finding earns points. -/
theorem pointsOf_le_of_sublist {deductions : Deductions} (costs : ∀ severity, 0 ≤ deduction deductions severity)
    {fewer findings : List Finding} (h : fewer.Sublist findings) :
    pointsOf deductions findings ≤ pointsOf deductions fewer := by
  have hsum := (h.map fun finding ↦ deduction deductions finding.severity).sum_le_sum (by
    intro cost hcost
    obtain ⟨finding, -, rfl⟩ := List.mem_map.mp hcost
    exact costs finding.severity)
  rw [pointsOf_eq, pointsOf_eq]
  omega

theorem standardDeductions_nonneg (severity : Severity) : 0 ≤ deduction standardDeductions severity := by
  cases severity <;> decide

theorem deduction_nonneg {deductions : Deductions} (costs : ∀ entry ∈ deductions, 0 ≤ entry.2) (severity : Severity) :
    0 ≤ deduction deductions severity := by
  rw [deduction]
  cases hlookup : deductions.lookup severity with
  | none => exact Int.le_refl 0
  | some cost =>
    obtain ⟨before, after, rfl, -⟩ := List.lookup_eq_some_iff.mp hlookup
    exact costs (severity, cost) (List.mem_append_right before List.mem_cons_self)

/-! ## Risk -/

/-- The risk depends on which findings there are. -/
theorem riskOf_congr {findings others : List Finding} (same : ∀ finding, finding ∈ findings ↔ finding ∈ others) :
    riskOf findings = riskOf others := by
  rw [riskOf, riskOf, Severity.worst?_congr]
  intro severity
  simp only [List.mem_map, same]

/-- No finding is more severe than the risk. -/
theorem rank_riskOf_le {findings : List Finding} {finding : Finding} (h : finding ∈ findings) :
    (riskOf findings).rank ≤ finding.severity.rank := by
  have hmem : finding.severity ∈ findings.map (·.severity) := List.mem_map_of_mem h
  rw [riskOf]
  cases hworst : Severity.worst? (findings.map (·.severity)) with
  | none =>
    rw [Severity.worst?_eq_none_iff.mp hworst] at hmem
    exact absurd hmem List.not_mem_nil
  | some severity => exact Severity.rank_worst?_le hworst hmem

/-- The risk is the most severe level of a finding, or the least level when there are no findings. -/
theorem riskOf_most_severe (findings : List Finding) :
    findings = [] ∧ riskOf findings = .low ∨
      (∃ finding ∈ findings, finding.severity = riskOf findings) ∧
        ∀ finding ∈ findings, (riskOf findings).rank ≤ finding.severity.rank := by
  cases hworst : Severity.worst? (findings.map (·.severity)) with
  | none =>
    have hnil : findings = [] := List.map_eq_nil_iff.mp (Severity.worst?_eq_none_iff.mp hworst)
    exact Or.inl ⟨hnil, by rw [hnil]; rfl⟩
  | some severity =>
    have hrisk : riskOf findings = severity := by rw [riskOf, hworst, Option.getD_some]
    refine Or.inr ⟨?_, fun finding ↦ rank_riskOf_le⟩
    rw [hrisk]
    exact List.mem_map.mp (Severity.worst?_mem hworst)

/-- More findings never make the risk less severe. -/
theorem rank_riskOf_le_of_subset {fewer findings : List Finding} (h : fewer ⊆ findings) :
    (riskOf findings).rank ≤ (riskOf fewer).rank := by
  cases hworst : Severity.worst? (fewer.map (·.severity)) with
  | none =>
    rw [riskOf.eq_def fewer, hworst]
    cases riskOf findings <;> decide
  | some severity =>
    obtain ⟨finding, hfinding, rfl⟩ := List.mem_map.mp (Severity.worst?_mem hworst)
    rw [riskOf.eq_def fewer, hworst]
    exact rank_riskOf_le (h hfinding)

theorem ofFindings_perm (deductions : Deductions) {findings others : List Finding} (h : findings.Perm others) :
    ofFindings deductions findings = ofFindings deductions others := by
  rw [ofFindings, ofFindings, pointsOf_perm _ h, riskOf_congr fun _ ↦ h.mem_iff]

/-! ## Scores -/

theorem deductionsOr_of_ne_nil {deductions : Deductions} (given : deductions ≠ []) :
    deductionsOr deductions = deductions :=
  if_neg (mt List.isEmpty_iff.mp given)

/-- With deductions of any sign and size, the points are what is left of a hundred after every level has been paid for
as often as it occurs, cut off at zero and at a hundred; a level that is not listed is free. The order of the findings
does not matter. The risk is the most severe level that occurs, and the least one when there are no findings. If no
level earns points, further findings at any places neither raise the points nor make the risk less severe. -/
theorem determined_by_level_counts (deductions : Deductions) (given : deductions ≠ []) (findings : List Finding) :
    (ofFindings deductions findings).points =
        max 0 (min 100 (100 - (Severity.all.map fun severity ↦
          (findings.countP (·.severity == severity) : Int) * (deductions.lookup severity).getD 0).sum)) ∧
      (0 ≤ (ofFindings deductions findings).points ∧ (ofFindings deductions findings).points ≤ 100) ∧
      (∀ reordered, reordered.Perm findings → ofFindings deductions reordered = ofFindings deductions findings) ∧
      (findings = [] ∧ (ofFindings deductions findings).risk = .low ∨
        (∃ finding ∈ findings, finding.severity = (ofFindings deductions findings).risk) ∧
          ∀ finding ∈ findings, (ofFindings deductions findings).risk.rank ≤ finding.severity.rank) ∧
      ((∀ entry ∈ deductions, 0 ≤ entry.2) → ∀ more, findings.Sublist more →
        (ofFindings deductions more).points ≤ (ofFindings deductions findings).points ∧
          (ofFindings deductions more).risk.rank ≤ (ofFindings deductions findings).risk.rank) := by
  have hpoints (findings : List Finding) :
      (ofFindings deductions findings).points = pointsOf deductions findings := by
    rw [ofFindings, deductionsOr_of_ne_nil given]
  refine ⟨?_, ?_, ?_, riskOf_most_severe findings, ?_⟩
  · rw [hpoints, pointsOf_eq, Severity.sum_weight_by_level]
    simp only [deduction, mul_comm]
  · rw [hpoints]
    exact pointsOf_mem_range deductions findings
  · intro reordered hperm
    exact ofFindings_perm deductions hperm
  · intro costs more hmore
    rw [hpoints, hpoints]
    exact ⟨pointsOf_le_of_sublist (deduction_nonneg costs) hmore, rank_riskOf_le_of_subset hmore.subset⟩

def bareFinding (severity : Severity) : Finding where
  category := .str "Bare"
  severity := severity
  description := .str ""
  named := rfl

/-- A critical finding costs more than all points, and the least level earns some of them back. -/
def earningBack : Deductions := [(.critical, 250), (.low, -90)]

def steep : Deductions := [(.medium, 1000000000000000000000)]

/-- Points are cut off neither before the costs nor between them, whatever the order. -/
theorem determined_by_level_counts_earningBack :
    (ofFindings earningBack ([.low, .critical, .high, .low].map bareFinding)).points = 30 ∧
      (ofFindings earningBack ([.critical, .low, .low, .high].map bareFinding)).points = 30 ∧
      (∃ finding ∈ [Severity.low, .critical, .high, .low].map bareFinding, finding.severity = .critical) ∧
      (ofFindings steep ([.low, .medium].map bareFinding)).points ≤ (ofFindings steep [bareFinding .low]).points ∧
      (ofFindings steep ([.low, .medium].map bareFinding)).risk.rank ≤ Severity.low.rank := by
  obtain ⟨hpoints, -, hreordered, hrisk, -⟩ :=
    determined_by_level_counts earningBack (List.cons_ne_nil _ _) ([.low, .critical, .high, .low].map bareFinding)
  have hperm : ([.critical, .low, .low, .high].map bareFinding).Perm
      ([.low, .critical, .high, .low].map bareFinding) :=
    List.Perm.map bareFinding (by decide)
  obtain ⟨-, -, -, -, hmore⟩ := determined_by_level_counts steep (List.cons_ne_nil _ _) [bareFinding .low]
  obtain ⟨hfewer, hworse⟩ := hmore (by decide) ([.low, .medium].map bareFinding) (by simp)
  refine ⟨hpoints, ?_, ?_, hfewer, hworse⟩
  · rw [hreordered _ hperm]
    exact hpoints
  · exact (hrisk.resolve_left (by simp)).1

end Score

namespace Tally

/-! ## Counts by severity -/

theorem countBySeverity_perm {findings others : List Finding} (h : findings.Perm others) :
    countBySeverity findings = countBySeverity others := by
  rw [countBySeverity, countBySeverity]
  congr 1
  funext severity
  rw [h.countP_eq]

/-- Every level is listed for both, and fewer findings have no higher count. -/
theorem countBySeverity_le_of_sublist {fewer findings : List Finding} (h : fewer.Sublist findings) :
    List.Forall₂ (fun low high : String × Int ↦ low.1 = high.1 ∧ low.2 ≤ high.2)
      (countBySeverity fewer) (countBySeverity findings) := by
  rw [countBySeverity, countBySeverity, List.forall₂_map_left_iff, List.forall₂_map_right_iff,
    List.forall₂_same]
  intro severity _
  exact ⟨rfl, Int.ofNat_le.mpr h.countP_le⟩

end Tally

end ContractAudit
