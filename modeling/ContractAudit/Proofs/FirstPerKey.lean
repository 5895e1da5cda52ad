import ContractAudit.Proofs.AuditSteps
import ContractAudit.Proofs.Layout
import Mathlib.Data.List.Induction

/-!
# The first finding with each key, in a stable ranking

Merging keeps a seen set and then sorts. What it computes is said here without either of them: a finding is kept if it
stands at the first index of its key, the kept findings are ordered by severity, and findings of one severity are
ordered by the index of their key. Together these facts leave no choice, so they determine the merged list. Keys are
those of findings whose line has at most 4300 digits, as every line of a source or an answer has.
-/

namespace ContractAudit.Tally

/-! ## The first index of a key -/

def firstIndex (findings : List Finding) (key : String) : Nat := findings.findIdx (·.key == key)

/-- The findings that stand at the first index of their key. -/
def firstPerKey (findings : List Finding) : List Finding :=
  (findings.zipIdx.filter fun entry ↦ firstIndex findings entry.1.key == entry.2).map Prod.fst

/-- A key has a first index inside the list exactly if a finding has it. -/
theorem firstIndex_lt_length_iff {findings : List Finding} {key : String} :
    firstIndex findings key < findings.length ↔ key ∈ findings.map Finding.key := by
  unfold firstIndex
  rw [List.findIdx_lt_length]
  simp

/-- More findings at the end leave the first index of a key that came already. -/
theorem firstIndex_append_of_mem {findings : List Finding} {key : String} (more : List Finding)
    (h : key ∈ findings.map Finding.key) : firstIndex (findings ++ more) key = firstIndex findings key := by
  have hlt := firstIndex_lt_length_iff.mpr h
  unfold firstIndex at hlt ⊢
  rw [List.findIdx_append, if_pos hlt]

/-- A last finding is new exactly when its key has not come before. -/
theorem firstPerKey_concat (findings : List Finding) (last : Finding) :
    firstPerKey (findings ++ [last]) =
      firstPerKey findings ++ if last.key ∈ findings.map Finding.key then [] else [last] := by
  have hold : (findings.zipIdx.filter fun entry ↦ firstIndex (findings ++ [last]) entry.1.key == entry.2) =
      findings.zipIdx.filter fun entry ↦ firstIndex findings entry.1.key == entry.2 := by
    apply List.filter_congr
    intro entry hentry
    have hkey : entry.1.key ∈ findings.map Finding.key :=
      List.mem_map_of_mem (List.fst_mem_of_mem_zipIdx hentry)
    rw [firstIndex_append_of_mem [last] hkey]
  have hindex : firstIndex (findings ++ [last]) last.key = findings.length ↔ last.key ∉ findings.map Finding.key := by
    constructor
    · intro heq hmem
      have hlt := firstIndex_lt_length_iff.mpr hmem
      rw [firstIndex_append_of_mem [last] hmem] at heq
      omega
    · intro hmem
      have hnot := fun hlt ↦ hmem (firstIndex_lt_length_iff.mp hlt)
      unfold firstIndex at hnot ⊢
      rw [List.findIdx_append, if_neg hnot]
      simp [List.findIdx_cons]
  unfold firstPerKey
  rw [List.zipIdx_append, List.filter_append, List.map_append, hold]
  congr 1
  by_cases hmem : last.key ∈ findings.map Finding.key
  · have hne : firstIndex (findings ++ [last]) last.key ≠ findings.length := fun heq ↦ hindex.mp heq hmem
    simp [hmem, hne]
  · have heq : firstIndex (findings ++ [last]) last.key = findings.length := hindex.mpr hmem
    simp [hmem, heq]

/-- The seen set keeps the findings at the first indexes of their keys. -/
theorem unique_eq_firstPerKey (findings : List Finding) : unique findings = firstPerKey findings := by
  induction findings using List.reverseRecOn with
  | nil => rfl
  | append_singleton findings last ih =>
    rw [unique_concat, firstPerKey_concat, ih]

/-- The kept findings stand in the order of the indexes of their keys. -/
theorem firstPerKey_pairwise (findings : List Finding) :
    (firstPerKey findings).Pairwise fun first second ↦
      firstIndex findings first.key < firstIndex findings second.key := by
  unfold firstPerKey
  rw [List.pairwise_map]
  refine ((pairwise_snd_zipIdx findings).filter _).imp_of_mem ?_
  intro first second hfirst hsecond hlt
  have hfirst : firstIndex findings first.1.key = first.2 := eq_of_beq (List.mem_filter.mp hfirst).2
  have hsecond : firstIndex findings second.1.key = second.2 := eq_of_beq (List.mem_filter.mp hsecond).2
  omega

/-! ## The specification of merging -/

/-- The list has the first finding with each key of the given list, the most severe first, and findings of one severity
as they came. -/
structure StablyRanked (given merged : List Finding) : Prop where
  firsts : merged.Perm (firstPerKey given)
  distinct : (merged.map Finding.key).Nodup
  sameKeys : ∀ key, key ∈ merged.map Finding.key ↔ key ∈ given.map Finding.key
  ranks : merged.Pairwise fun first second ↦ first.severity.rank ≤ second.severity.rank
  stable : merged.Pairwise fun first second ↦
    first.severity = second.severity → firstIndex given first.key < firstIndex given second.key

/-- Sorting by level keeps an order within the levels. -/
theorem ranked_stable {findings : List Finding} {before : Finding → Finding → Prop} (h : findings.Pairwise before) :
    (ranked findings).Pairwise fun first second ↦ first.severity = second.severity → before first second := by
  rw [ranked_eq_byLevel]
  unfold byLevel
  rw [List.pairwise_flatMap]
  constructor
  · intro severity _
    refine (h.filter _).imp ?_
    intro first second hbefore _
    exact hbefore
  · have hdistinct : Severity.all.Pairwise (· ≠ ·) := by decide
    refine hdistinct.imp fun {severity other} hne ↦ ?_
    intro first hfirst second hsecond hsame
    have hseverity : first.severity = severity := eq_of_beq (List.mem_filter.mp hfirst).2
    have hother : second.severity = other := eq_of_beq (List.mem_filter.mp hsecond).2
    exact absurd (hseverity.symm.trans (hsame.trans hother)) hne

/-- Dropping repetitions and sorting gives a stable ranking. -/
theorem stablyRanked_ranked_unique (given : List Finding) : StablyRanked given (ranked (unique given)) where
  firsts := by
    rw [← unique_eq_firstPerKey]
    exact ranked_perm _
  distinct := ((ranked_perm (unique given)).map Finding.key).nodup_iff.mpr (nodup_keys_unique given)
  sameKeys key := by
    rw [((ranked_perm (unique given)).map Finding.key).mem_iff]
    constructor
    · intro h
      exact ((unique_sublist given).map Finding.key).subset h
    · intro h
      obtain ⟨finding, hfinding, rfl⟩ := List.mem_map.mp h
      exact key_mem_unique hfinding
  ranks := ranked_pairwise _
  stable := by
    apply ranked_stable
    rw [unique_eq_firstPerKey]
    exact firstPerKey_pairwise given

/-- Earlier in the ranking: more severe, or as severe and given earlier. -/
def RankedBefore (given : List Finding) (first second : Finding) : Prop :=
  first.severity.rank < second.severity.rank ∨
    first.severity.rank = second.severity.rank ∧ firstIndex given first.key < firstIndex given second.key

theorem StablyRanked.pairwise_rankedBefore {given merged : List Finding} (h : StablyRanked given merged) :
    merged.Pairwise (RankedBefore given) := by
  refine h.ranks.imp₂ ?_ h.stable
  intro first second hle hstable
  rcases Nat.lt_or_eq_of_le hle with hlt | heq
  · exact Or.inl hlt
  · exact Or.inr ⟨heq, hstable (Severity.rank_injective heq)⟩

/-- Two lists that meet the specification are equal: of two findings only one can come before the other. -/
theorem StablyRanked.eq {given merged other : List Finding} (h : StablyRanked given merged)
    (hother : StablyRanked given other) : merged = other := by
  apply List.Perm.eq_of_pairwise _ h.pairwise_rankedBefore hother.pairwise_rankedBefore
    (h.firsts.trans hother.firsts.symm)
  intro first second _ _ hbefore hafter
  unfold RankedBefore at hbefore hafter
  omega

/-! ## Merging meets its specification -/

theorem ofFindings_proper (static model : List Finding) :
    ofFindings (static.map .proper) (model.map .proper) = ofMerged (static ++ model.map (·.fromModel)) := by
  simp only [ofFindings, proper_map_proper, bind, Except.bind]

/-- Whether there is a tally depends on the categories alone. -/
theorem ofMerged_eq (given : List Finding) :
    ofMerged given =
      (countByCategory (ranked (unique given))).map fun categoryCounts ↦
        { vulnerabilities := ranked (unique given)
          severityCounts := countBySeverity (ranked (unique given))
          categoryCounts } := by
  simp only [ofMerged]
  cases countByCategory (ranked (unique given)) <;> rfl

/-- Merging the findings of analyzers with those of a language model gives the first finding with each key in a stable
ranking, and it is the only list of this kind: a permutation of the findings at the first index of their key, in which
no key comes twice and no key is missing, severe findings come first, and findings of one severity keep the order in
which they were given. Only a category that cannot be counted, which no text is, leaves no list at all. -/
theorem ofFindings_stablyRanked (static model : List Finding) :
    (∃ tally, ofFindings (static.map .proper) (model.map .proper) = .ok tally ∧
        ∀ merged, merged = tally.vulnerabilities ↔ StablyRanked (static ++ model.map (·.fromModel)) merged) ∨
      (∃ finding ∈ firstPerKey (static ++ model.map (·.fromModel)), finding.category.hashable = false) ∧
        ofFindings (static.map .proper) (model.map .proper) = .error .unhashableCategory := by
  rw [ofFindings_proper, ofMerged_eq]
  have hspec := stablyRanked_ranked_unique (static ++ model.map (·.fromModel))
  generalize static ++ model.map (·.fromModel) = given at hspec ⊢
  unfold countByCategory
  by_cases hcountable : (ranked (unique given)).all (·.category.hashable) = true
  · left
    rw [if_pos hcountable]
    refine ⟨_, rfl, fun merged ↦ ?_⟩
    constructor
    · rintro rfl
      exact hspec
    · intro hmerged
      exact hmerged.eq hspec
  · right
    rw [if_neg hcountable]
    refine ⟨?_, rfl⟩
    obtain ⟨finding, hfinding, hunhashable⟩ := List.all_eq_false.mp (Bool.eq_false_iff.mpr hcountable)
    exact ⟨finding, hspec.firsts.mem_iff.mp hfinding, Bool.eq_false_iff.mpr hunhashable⟩

end ContractAudit.Tally
