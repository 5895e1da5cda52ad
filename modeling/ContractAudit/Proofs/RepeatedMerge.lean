import ContractAudit.Proofs.FirstPerKey

/-!
# Merging again

Merging is a normal form: findings whose keys came before are absorbed, whatever else they say, and a list that was
merged is left as it is. Both facts are about the list of vulnerabilities. The counts follow, because a tally is
computed from that list alone. Lines have at most 4300 digits, so that every finding has a key.
-/

namespace ContractAudit.Tally

/-! ## Absorbed findings -/

/-- Nothing is left of findings whose keys were all seen before. -/
theorem dropRepeated_eq_nil {seen : List String} {findings : List Finding}
    (known : ∀ finding ∈ findings, finding.key ∈ seen) : dropRepeated seen findings = [] := by
  rw [List.eq_nil_iff_forall_not_mem]
  intro finding hfinding
  have hnew : finding.key ∉ seen := key_notMem_of_mem_dropRepeated hfinding
  exact hnew (known finding ((dropRepeated_sublist seen findings).subset hfinding))

/-- Repetitions can be left out, also when other findings come after them. -/
theorem unique_append_absorbs {findings repeated : List Finding}
    (known : ∀ finding ∈ repeated, finding.key ∈ findings.map Finding.key) (more : List Finding) :
    unique (findings ++ repeated ++ more) = unique (findings ++ more) := by
  have hkeys : ∀ key, key ∈ (findings ++ repeated).map Finding.key ↔ key ∈ findings.map Finding.key := by
    intro key
    rw [List.map_append, List.mem_append, or_iff_left_iff_imp]
    intro hkey
    obtain ⟨finding, hfinding, rfl⟩ := List.mem_map.mp hkey
    exact known finding hfinding
  calc
    unique (findings ++ repeated ++ more) =
        unique (findings ++ repeated) ++ dropRepeated ((findings ++ repeated).map Finding.key) more := by
      rw [unique_append]
    _ = unique findings ++ dropRepeated (findings.map Finding.key) more := by
      rw [unique_append, dropRepeated_eq_nil known, List.append_nil, dropRepeated_congr hkeys]
    _ = unique (findings ++ more) := by rw [unique_append]

/-! ## Merged findings -/

/-- A list in the order of severity is left in its order. -/
theorem ranked_eq_self {findings : List Finding}
    (sorted : findings.Pairwise fun first second ↦ first.severity.rank ≤ second.severity.rank) :
    ranked findings = findings := by
  rw [ranked_eq_byLevel, ← eq_byLevel_of_pairwise sorted]

/-- The merged list has no key twice and is sorted, so neither step changes it again. -/
theorem ranked_unique_idem (given : List Finding) :
    ranked (unique (ranked (unique given))) = ranked (unique given) := by
  have hmerged := stablyRanked_ranked_unique given
  rw [unique_eq_self hmerged.distinct, ranked_eq_self hmerged.ranks]

/-- A tally depends on the merged list alone. -/
theorem ofMerged_congr {given other : List Finding} (h : ranked (unique given) = ranked (unique other)) :
    ofMerged given = ofMerged other := by
  rw [ofMerged_eq, ofMerged_eq, h]

/-- There is a tally of the merged list, unless a category cannot be counted. -/
theorem ofMerged_cases (given : List Finding) :
    (∃ tally, ofMerged given = .ok tally ∧ tally.vulnerabilities = ranked (unique given)) ∨
      (∃ finding ∈ given, finding.category.hashable = false) ∧ ofMerged given = .error .unhashableCategory := by
  rw [ofMerged_eq]
  unfold countByCategory
  by_cases hcountable : (ranked (unique given)).all (·.category.hashable) = true
  · rw [if_pos hcountable]
    exact Or.inl ⟨_, rfl, rfl⟩
  · rw [if_neg hcountable]
    obtain ⟨finding, hfinding, hunhashable⟩ := List.all_eq_false.mp (Bool.eq_false_iff.mpr hcountable)
    have hgiven : finding ∈ given := (unique_sublist given).subset (mem_ranked.mp hfinding)
    exact Or.inr ⟨⟨finding, hgiven, Bool.eq_false_iff.mpr hunhashable⟩, rfl⟩

/-- Merging absorbs repetitions and is idempotent. Findings whose keys all occur among the given ones change nothing in
the tally, whatever their severities, snippets and origins are. And the vulnerabilities of a tally, merged again as
findings of analyzers, give that tally, whatever the findings of the model were. Only a category that cannot be counted,
which no text is, leaves no tally. -/
theorem merging_absorbs_repetitions (findings repeated model : List Finding)
    (known : ∀ finding ∈ repeated, finding.key ∈ findings.map Finding.key) :
    ofFindings ((findings ++ repeated).map .proper) (model.map .proper) =
        ofFindings (findings.map .proper) (model.map .proper) ∧
      ((∃ tally, ofFindings (findings.map .proper) (model.map .proper) = .ok tally ∧
          ofFindings (tally.vulnerabilities.map .proper) [] = .ok tally) ∨
        (∃ finding ∈ findings ++ model.map (·.fromModel), finding.category.hashable = false) ∧
          ofFindings (findings.map .proper) (model.map .proper) = .error .unhashableCategory) := by
  simp only [ofFindings_proper]
  constructor
  · apply ofMerged_congr
    rw [unique_append_absorbs known]
  · rcases ofMerged_cases (findings ++ model.map (·.fromModel)) with ⟨tally, htally, hvulnerabilities⟩ | hunhashable
    · refine Or.inl ⟨tally, htally, ?_⟩
      calc
        ofFindings (tally.vulnerabilities.map .proper) [] = ofMerged tally.vulnerabilities := by
          simpa using ofFindings_proper tally.vulnerabilities []
        _ = ofMerged (findings ++ model.map (·.fromModel)) := by
          apply ofMerged_congr
          rw [hvulnerabilities, ranked_unique_idem]
        _ = .ok tally := htally
    · exact Or.inr hunhashable

def mildReentrancy : Finding where
  category := .str "Reentrancy"
  severity := .low
  description := .str "Call before write"
  line := some (.ofIndex 6)
  named := rfl

def severeReentrancy : Finding :=
  { mildReentrancy with severity := .critical, snippet := .str "x.call();", origin := .ai }

def lockedEther : Finding where
  category := .str "Locked Ether"
  severity := .critical
  description := .str ""
  origin := .ai
  named := rfl

theorem merging_absorbs_severeReentrancy :
    (∀ finding ∈ [severeReentrancy], finding.key ∈ [mildReentrancy].map Finding.key) ∧
      ofFindings ([mildReentrancy, severeReentrancy].map .proper) [.proper lockedEther] =
        ofFindings [.proper mildReentrancy] [.proper lockedEther] ∧
      ∃ tally, ofFindings [.proper mildReentrancy] [.proper lockedEther] = .ok tally ∧
        ofFindings (tally.vulnerabilities.map .proper) [] = .ok tally := by
  have hknown : ∀ finding ∈ [severeReentrancy], finding.key ∈ [mildReentrancy].map Finding.key := by
    simp only [List.forall_mem_singleton]
    exact List.mem_singleton_self _
  obtain ⟨habsorbed, hidempotent⟩ :=
    merging_absorbs_repetitions [mildReentrancy] [severeReentrancy] [lockedEther] hknown
  refine ⟨hknown, habsorbed, hidempotent.resolve_right ?_⟩
  rintro ⟨⟨finding, hfinding, hunhashable⟩, -⟩
  rcases List.mem_pair.mp hfinding with rfl | rfl <;> cases hunhashable

end ContractAudit.Tally
