import ContractAudit.Tally
import Mathlib.Data.List.Nodup

/-!
# First per key, most severe first

What merging does to a list of findings: `Tally.unique` keeps the first finding with each key, and `Tally.ranked` is the
concatenation of the findings of each level. Since there are only four levels, the second fact carries everything that
is needed of the sort: it keeps every finding once, it keeps the order within a level, and it commutes with selections.
-/

namespace ContractAudit.Tally

/-! ## Keys that were seen -/

/-- What is dropped depends on the set of the keys seen before and not on their order. -/
theorem dropRepeated_congr {seen other : List String} (same : ∀ key, key ∈ seen ↔ key ∈ other)
    (findings : List Finding) : dropRepeated seen findings = dropRepeated other findings := by
  induction findings generalizing seen other with
  | nil => rfl
  | cons finding rest ih =>
    have hcontains : seen.contains finding.key = other.contains finding.key := by
      rw [Bool.eq_iff_iff, List.contains_iff_mem, List.contains_iff_mem]
      exact same finding.key
    have hextended : ∀ key, key ∈ finding.key :: seen ↔ key ∈ finding.key :: other := by
      intro key
      simp only [List.mem_cons, same key]
    rw [dropRepeated, dropRepeated, hcontains, ih same, ih hextended]

/-- The findings of a second list are dropped if their keys came before or in the first list. -/
theorem dropRepeated_append (seen : List String) (first second : List Finding) :
    dropRepeated seen (first ++ second) =
      dropRepeated seen first ++ dropRepeated (first.map Finding.key ++ seen) second := by
  induction first generalizing seen with
  | nil => rfl
  | cons finding rest ih =>
    rw [List.cons_append, dropRepeated, dropRepeated]
    by_cases hseen : seen.contains finding.key = true
    · rw [if_pos hseen, if_pos hseen, ih]
      congr 1
      apply dropRepeated_congr
      intro key
      have hmem : finding.key ∈ seen := List.contains_iff_mem.mp hseen
      simp only [List.map_cons, List.cons_append, List.mem_cons, List.mem_append]
      constructor
      · exact Or.inr
      · rintro (rfl | h)
        · exact Or.inr hmem
        · exact h
    · rw [if_neg hseen, if_neg hseen, ih, List.cons_append]
      congr 2
      apply dropRepeated_congr
      intro key
      simp only [List.map_cons, List.cons_append, List.mem_cons, List.mem_append]
      exact or_left_comm

/-- Of later findings those are kept whose keys did not come before. -/
theorem unique_append (first second : List Finding) :
    unique (first ++ second) = unique first ++ dropRepeated (first.map Finding.key) second := by
  rw [unique, dropRepeated_append, List.append_nil, unique]

/-- One more finding is kept unless its key came before. -/
theorem unique_concat (earlier : List Finding) (finding : Finding) :
    unique (earlier ++ [finding]) =
      unique earlier ++ if finding.key ∈ earlier.map Finding.key then [] else [finding] := by
  rw [unique_append]
  simp only [dropRepeated, List.contains_iff_mem]

theorem dropRepeated_sublist (seen : List String) (findings : List Finding) :
    (dropRepeated seen findings).Sublist findings := by
  induction findings generalizing seen with
  | nil => exact List.Sublist.refl []
  | cons finding rest ih =>
    rw [dropRepeated]
    split
    · exact (ih seen).cons finding
    · exact (ih _).cons_cons finding

theorem unique_sublist (findings : List Finding) : (unique findings).Sublist findings :=
  dropRepeated_sublist [] findings

theorem key_notMem_of_mem_dropRepeated {seen : List String} {findings : List Finding} {finding : Finding}
    (h : finding ∈ dropRepeated seen findings) : finding.key ∉ seen := by
  induction findings generalizing seen with
  | nil => simp [dropRepeated] at h
  | cons first rest ih =>
    rw [dropRepeated] at h
    split at h
    · exact ih h
    · next hseen =>
      rcases List.mem_cons.mp h with rfl | hrest
      · intro hmem
        exact hseen (List.contains_iff_mem.mpr hmem)
      · intro hmem
        exact ih hrest (List.mem_cons_of_mem _ hmem)

/-- No key is left twice. -/
theorem nodup_keys_dropRepeated (seen : List String) (findings : List Finding) :
    ((dropRepeated seen findings).map Finding.key).Nodup := by
  induction findings generalizing seen with
  | nil => exact List.nodup_nil
  | cons finding rest ih =>
    rw [dropRepeated]
    split
    · exact ih seen
    · rw [List.map_cons, List.nodup_cons]
      refine ⟨?_, ih _⟩
      intro hmem
      obtain ⟨other, hother, hkey⟩ := List.mem_map.mp hmem
      have hnot := key_notMem_of_mem_dropRepeated hother
      rw [hkey] at hnot
      exact hnot List.mem_cons_self

/-- Every key is left, unless it was seen before. -/
theorem key_mem_dropRepeated (seen : List String) {findings : List Finding} {finding : Finding}
    (h : finding ∈ findings) :
    finding.key ∈ seen ∨ finding.key ∈ (dropRepeated seen findings).map Finding.key := by
  induction findings generalizing seen with
  | nil => simp at h
  | cons first rest ih =>
    rw [dropRepeated]
    rcases List.mem_cons.mp h with rfl | hrest
    · split
      · next hseen => exact Or.inl (List.contains_iff_mem.mp hseen)
      · exact Or.inr (by simp)
    · split
      · exact ih seen hrest
      · rcases ih (first.key :: seen) hrest with hold | hnew
        · rcases List.mem_cons.mp hold with heq | hseen
          · exact Or.inr (by simp [heq])
          · exact Or.inl hseen
        · exact Or.inr (List.mem_cons_of_mem _ hnew)

/-- No key is left twice. -/
theorem nodup_keys_unique (findings : List Finding) : ((unique findings).map Finding.key).Nodup :=
  nodup_keys_dropRepeated [] findings

/-- No key is lost. -/
theorem key_mem_unique {findings : List Finding} {finding : Finding} (h : finding ∈ findings) :
    finding.key ∈ (unique findings).map Finding.key := by
  rcases key_mem_dropRepeated [] h with hseen | hleft
  · simp at hseen
  · exact hleft

/-- Nothing is dropped from findings whose keys differ and were not seen before. -/
theorem dropRepeated_eq_self {seen : List String} {findings : List Finding}
    (distinct : (findings.map Finding.key).Nodup) (fresh : ∀ finding ∈ findings, finding.key ∉ seen) :
    dropRepeated seen findings = findings := by
  induction findings generalizing seen with
  | nil => rfl
  | cons finding rest ih =>
    rw [List.map_cons, List.nodup_cons] at distinct
    have hfirst : ¬ seen.contains finding.key = true := by
      rw [List.contains_iff_mem]
      exact fresh finding List.mem_cons_self
    rw [dropRepeated, if_neg hfirst]
    congr 1
    apply ih distinct.2
    intro other hother hmem
    rcases List.mem_cons.mp hmem with hkey | hseen
    · exact distinct.1 (hkey ▸ List.mem_map_of_mem hother)
    · exact fresh other (List.mem_cons_of_mem _ hother) hseen

theorem unique_eq_self {findings : List Finding} (distinct : (findings.map Finding.key).Nodup) :
    unique findings = findings :=
  dropRepeated_eq_self distinct (by simp)

/-! ## Levels one after the other -/

theorem ranked_perm (findings : List Finding) : (ranked findings).Perm findings :=
  List.mergeSort_perm findings _

@[simp] theorem mem_ranked {finding : Finding} {findings : List Finding} :
    finding ∈ ranked findings ↔ finding ∈ findings := List.mem_mergeSort

theorem noLessSevere_trans (first second third : Finding)
    (h : decide (first.severity.rank ≤ second.severity.rank) = true)
    (h' : decide (second.severity.rank ≤ third.severity.rank) = true) :
    decide (first.severity.rank ≤ third.severity.rank) = true :=
  decide_eq_true (Nat.le_trans (of_decide_eq_true h) (of_decide_eq_true h'))

theorem noLessSevere_total (first second : Finding) :
    (decide (first.severity.rank ≤ second.severity.rank) ||
      decide (second.severity.rank ≤ first.severity.rank)) = true := by
  simpa using Nat.le_total first.severity.rank second.severity.rank

/-- More severe findings come first. -/
theorem ranked_pairwise (findings : List Finding) :
    (ranked findings).Pairwise fun first second ↦ first.severity.rank ≤ second.severity.rank :=
  (List.pairwise_mergeSort noLessSevere_trans noLessSevere_total findings).imp of_decide_eq_true

/-- Within a level the sort changes nothing. -/
theorem filter_severity_ranked (severity : Severity) (findings : List Finding) :
    (ranked findings).filter (·.severity == severity) = findings.filter (·.severity == severity) := by
  have hlevel : (findings.filter (·.severity == severity)).Pairwise
      fun first second ↦ decide (first.severity.rank ≤ second.severity.rank) = true := by
    rw [List.pairwise_filter]
    refine List.pairwise_of_forall fun first second hfirst hsecond ↦ ?_
    rw [eq_of_beq hfirst, eq_of_beq hsecond]
    exact decide_eq_true (Nat.le_refl _)
  have hsublist : (findings.filter (·.severity == severity)).Sublist (ranked findings) :=
    List.sublist_mergeSort noLessSevere_trans noLessSevere_total hlevel List.filter_sublist
  have hfiltered := hsublist.filter (·.severity == severity)
  rw [List.filter_filter] at hfiltered
  simp only [Bool.and_self] at hfiltered
  have hlength := ((ranked_perm findings).filter (·.severity == severity)).length_eq
  exact (hfiltered.eq_of_length hlength.symm).symm

def byLevel (findings : List Finding) : List Finding :=
  Severity.all.flatMap fun severity ↦ findings.filter (·.severity == severity)

/-- A ranked list is made of its levels. No later finding is more severe than the first one, so the levels above it are
empty. -/
theorem eq_byLevel_of_pairwise {findings : List Finding}
    (sorted : findings.Pairwise fun first second ↦ first.severity.rank ≤ second.severity.rank) :
    findings = byLevel findings := by
  induction findings with
  | nil => rfl
  | cons finding rest ih =>
    rw [List.pairwise_cons] at sorted
    have hempty : ∀ severity : Severity, severity.rank < finding.severity.rank →
        rest.filter (·.severity == severity) = [] := by
      intro severity hless
      rw [List.filter_eq_nil_iff]
      intro other hother hsame
      have hle := sorted.1 other hother
      rw [eq_of_beq hsame] at hle
      omega
    have hrest := ih sorted.2
    simp only [byLevel, Severity.all, List.flatMap_cons, List.flatMap_nil, List.append_nil] at hrest ⊢
    cases hseverity : finding.severity with
    | critical => simpa [List.filter_cons, hseverity] using hrest
    | high =>
      have hcritical := hempty .critical (by rw [hseverity]; decide)
      simpa [List.filter_cons, hseverity, hcritical] using hrest
    | medium =>
      have hcritical := hempty .critical (by rw [hseverity]; decide)
      have hhigh := hempty .high (by rw [hseverity]; decide)
      simpa [List.filter_cons, hseverity, hcritical, hhigh] using hrest
    | low =>
      have hcritical := hempty .critical (by rw [hseverity]; decide)
      have hhigh := hempty .high (by rw [hseverity]; decide)
      have hmedium := hempty .medium (by rw [hseverity]; decide)
      simpa [List.filter_cons, hseverity, hcritical, hhigh, hmedium] using hrest

theorem ranked_eq_byLevel (findings : List Finding) : ranked findings = byLevel findings := by
  calc
    ranked findings = byLevel (ranked findings) := eq_byLevel_of_pairwise (ranked_pairwise findings)
    _ = byLevel findings := by simp only [byLevel, filter_severity_ranked]

/-- Selecting from the sorted findings is sorting the selected ones. -/
theorem filter_ranked (select : Finding → Bool) (findings : List Finding) :
    (ranked findings).filter select = ranked (findings.filter select) := by
  rw [ranked_eq_byLevel, ranked_eq_byLevel, byLevel, byLevel, List.filter_flatMap]
  congr 1
  funext severity
  exact List.filter_comm ..

end ContractAudit.Tally
