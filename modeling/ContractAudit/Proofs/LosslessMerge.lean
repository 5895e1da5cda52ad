import ContractAudit.Proofs.AuditSteps
import ContractAudit.Proofs.CatalogueLayout
import ContractAudit.Proofs.Scoring

/-!
# Merging loses nothing

Findings with the same key are reported once. The findings of distinct built-in analyzers have distinct keys, so none of
them is lost when their outcomes are merged: the numbers add up, and the risk is that of the worst outcome.
-/

namespace ContractAudit

namespace Outcome

theorem length_reported (outcomes : List Outcome) :
    (reported outcomes).length = (outcomes.map (·.vulnerabilities.length)).sum := by
  simp [reported, List.length_flatMap]

theorem length_advised (outcomes : List Outcome) :
    (advised outcomes).length = (outcomes.map (·.issues.length)).sum := by
  simp [advised, List.length_flatMap]

/-- The risk of all findings is the worst level of an outcome. -/
theorem riskOf_reported (outcomes : List Outcome) :
    Score.riskOf (reported outcomes) = (Severity.worst? (outcomes.filterMap severity?)).getD .low := by
  have hseverities : (reported outcomes).map (·.severity) =
      (outcomes.map fun outcome ↦ outcome.vulnerabilities.map (·.severity)).flatten := by
    rw [reported, List.map_flatMap, List.flatMap_def]
    simp only [List.map_map]
    rfl
  rw [Score.riskOf, hseverities, Severity.worst?_flatten, List.filterMap_map]
  rfl

end Outcome

namespace Tally

/-- Nothing is dropped from outcomes whose findings have distinct keys. -/
theorem combined_nil_of_nodup_keys {outcomes : List Outcome}
    (reported : ((Outcome.reported outcomes).map Finding.key).Nodup)
    (advised : ((Outcome.advised outcomes).map Finding.key).Nodup) :
    (combined outcomes []).vulnerabilities = ranked (Outcome.reported outcomes) ∧
      (combined outcomes []).optimizations = ranked (Outcome.advised outcomes) := by
  rw [combined]
  simp only [List.map_nil, List.append_nil, unique_eq_self reported, unique_eq_self advised, and_self]

end Tally

namespace Registry

/-- Merging the outcomes of distinct built-in analyzers loses nothing, whatever their windows. No two vulnerabilities
have the same key and no two issues do. So the tally has all vulnerabilities and all issues of the outcomes, and the
risk is the worst level of an outcome, or the least one if no outcome has a level. -/
theorem builtIn_merge_lossless (entries : List (BuiltIn × SettingsTable)) (distinct : (entries.map Prod.fst).Nodup)
    (source : String) :
    ((Outcome.reported ((ofEntries entries).run (.str source))).map Finding.key).Nodup ∧
      ((Outcome.advised ((ofEntries entries).run (.str source))).map Finding.key).Nodup ∧
      ∃ tally, Tally.ofOutcomes (((ofEntries entries).run (.str source)).map .proper) [] = .ok tally ∧
        tally.total = (((ofEntries entries).run (.str source)).map (·.vulnerabilities.length)).sum ∧
        tally.optimizations.length = (((ofEntries entries).run (.str source)).map (·.issues.length)).sum ∧
        ∀ deductions, (Score.ofFindings deductions tally.vulnerabilities).risk =
          (Severity.worst? (((ofEntries entries).run (.str source)).filterMap (·.severity?))).getD .low := by
  have hreported := nodup_keys_reported distinct source
  have hadvised := nodup_keys_advised distinct source
  obtain ⟨hvulnerabilities, hoptimizations⟩ := Tally.combined_nil_of_nodup_keys hreported hadvised
  have hcountable : (Tally.combined ((ofEntries entries).run (.str source)) []).Countable := by
    intro finding hfinding
    rw [hvulnerabilities, Tally.mem_ranked] at hfinding
    exact Value.hashable_of_isText (isText_of_mem_reported hfinding)
  refine ⟨hreported, hadvised, _, Tally.ofOutcomes_of_countable hcountable, ?_, ?_, fun deductions ↦ ?_⟩
  · rw [Tally.total, hvulnerabilities, (Tally.ranked_perm _).length_eq, Outcome.length_reported]
  · rw [hoptimizations, (Tally.ranked_perm _).length_eq, Outcome.length_advised]
  · rw [Score.ofFindings, hvulnerabilities, Score.riskOf_congr fun _ ↦ Tally.mem_ranked, Outcome.riskOf_reported]

def backwardEntries : List (BuiltIn × SettingsTable) :=
  [(.selfDestruct, []), (.uncheckedCall, [(.str "lookahead", .int (-2)), (.str "lookback", .int (-5))]), (.gas, [])]

def twoCalls : String := "a.call(b); c.send(d);\nselfdestruct(owner);"

theorem builtIn_merge_lossless_backward :
    (backwardEntries.map Prod.fst).Nodup ∧
      ((Outcome.reported ((ofEntries backwardEntries).run (.str twoCalls))).map Finding.key).Nodup ∧
      ((Outcome.advised ((ofEntries backwardEntries).run (.str twoCalls))).map Finding.key).Nodup ∧
      ∃ tally, Tally.ofOutcomes (((ofEntries backwardEntries).run (.str twoCalls)).map .proper) [] = .ok tally ∧
        tally.total = (((ofEntries backwardEntries).run (.str twoCalls)).map (·.vulnerabilities.length)).sum ∧
        tally.optimizations.length = (((ofEntries backwardEntries).run (.str twoCalls)).map (·.issues.length)).sum ∧
        ∀ deductions, (Score.ofFindings deductions tally.vulnerabilities).risk =
          (Severity.worst? (((ofEntries backwardEntries).run (.str twoCalls)).filterMap (·.severity?))).getD .low :=
  ⟨by decide, builtIn_merge_lossless backwardEntries (by decide) twoCalls⟩

end Registry

end ContractAudit
