import ContractAudit.Proofs.AuditSteps
import ContractAudit.Proofs.CatalogueLayout
import ContractAudit.Proofs.Scoring

/-!
# The order of analyzers

The order in which analyzers run decides which of two findings with one key is kept, and in which order categories are
counted. For built-in analyzers it makes no difference: a key comes from one analyzer only, and an analyzer that runs
twice reports the same findings again. Categories of other types than texts come from a language model alone, so that
their counts do not depend on the analyzers at all.
-/

namespace ContractAudit

/-- A text is the same key as an equal text and as nothing else. -/
theorem Value.eq_of_sameKey_of_isText {category other : Value} (h : category.isText = true)
    (same : category.sameKey other = true ∨ other.sameKey category = true) : category = other := by
  cases category with
  | str text =>
    cases other with
    | str second =>
      rcases same with same | same
      · rw [eq_of_beq same]
      · rw [eq_of_beq same]
    | _ => simp [sameKey, integer?] at same
  | _ => cases h

namespace Tally

/-! ## Counting categories in another order -/

def raise (category : Value) (entry : Value × Int) : Value × Int :=
  if entry.1.sameKey category then (entry.1, entry.2 + 1) else entry

theorem addCategory_of_any {counts : List (Value × Int)} {category : Value}
    (h : counts.any (·.1.sameKey category) = true) : addCategory counts category = counts.map (raise category) :=
  if_pos h

theorem addCategory_of_not_any {counts : List (Value × Int)} {category : Value}
    (h : counts.any (·.1.sameKey category) = false) : addCategory counts category = counts ++ [(category, 1)] :=
  if_neg (Bool.eq_false_iff.mp h)

theorem raise_fst (category : Value) (entry : Value × Int) : (raise category entry).1 = entry.1 := by
  rw [raise]
  split <;> rfl

theorem raise_of_not_sameKey {category : Value} {entry : Value × Int} (h : entry.1.sameKey category = false) :
    raise category entry = entry :=
  if_neg (Bool.eq_false_iff.mp h)

/-- Counting two categories in an entry is possible in either order. -/
theorem raise_comm (category other : Value) (entry : Value × Int) :
    raise category (raise other entry) = raise other (raise category entry) := by
  rw [raise, raise_fst, raise.eq_def other (raise category entry), raise_fst, raise, raise]
  split <;> split <;> rfl

theorem any_map_raise (category other : Value) (counts : List (Value × Int)) :
    (counts.map (raise category)).any (·.1.sameKey other) = counts.any (·.1.sameKey other) := by
  simp only [List.any_map, Function.comp_def, raise_fst]

/-- Counting a category does not depend on the order of the table. -/
theorem addCategory_perm {counts others : List (Value × Int)} (h : counts.Perm others) (category : Value) :
    (addCategory counts category).Perm (addCategory others category) := by
  have hany : counts.any (·.1.sameKey category) = others.any (·.1.sameKey category) := h.any_eq
  cases hcounted : counts.any (·.1.sameKey category) with
  | true =>
    rw [addCategory_of_any hcounted, addCategory_of_any (hany ▸ hcounted)]
    exact h.map _
  | false =>
    rw [addCategory_of_not_any hcounted, addCategory_of_not_any (hany ▸ hcounted)]
    exact h.append_right _

/-- Two categories that are not mistaken for each other can be counted in either order. -/
theorem addCategory_comm {category other : Value} (hfirst : category.sameKey other = true → category = other)
    (hsecond : other.sameKey category = true → category = other) (counts : List (Value × Int)) :
    (addCategory (addCategory counts category) other).Perm (addCategory (addCategory counts other) category) := by
  by_cases heq : category = other
  · rw [heq]
  have hfirst : category.sameKey other = false := Bool.eq_false_iff.mpr fun h ↦ heq (hfirst h)
  have hsecond : other.sameKey category = false := Bool.eq_false_iff.mpr fun h ↦ heq (hsecond h)
  cases hcategory : counts.any (·.1.sameKey category) with
  | true =>
    cases hother : counts.any (·.1.sameKey other) with
    | true =>
      rw [addCategory_of_any hcategory, addCategory_of_any hother,
        addCategory_of_any (by rw [any_map_raise, hother]), addCategory_of_any (by rw [any_map_raise, hcategory]),
        List.map_map, List.map_map]
      exact List.Perm.of_eq (List.map_congr_left fun entry _ ↦ raise_comm other category entry)
    | false =>
      rw [addCategory_of_any hcategory, addCategory_of_not_any hother,
        addCategory_of_not_any (by rw [any_map_raise, hother]), addCategory_of_any (by simp [hcategory]),
        List.map_append, List.map_singleton, raise_of_not_sameKey hsecond]
  | false =>
    cases hother : counts.any (·.1.sameKey other) with
    | true =>
      rw [addCategory_of_not_any hcategory, addCategory_of_any hother,
        addCategory_of_any (by simp [hother]), addCategory_of_not_any (by rw [any_map_raise, hcategory]),
        List.map_append, List.map_singleton, raise_of_not_sameKey hfirst]
    | false =>
      rw [addCategory_of_not_any hcategory, addCategory_of_not_any hother,
        addCategory_of_not_any (by simp [hother, hfirst]), addCategory_of_not_any (by simp [hcategory, hsecond]),
        List.append_assoc, List.append_assoc]
      exact (List.Perm.swap _ _ _).append_left counts

theorem foldl_addCategory_perm_counts (categories : List Value) {counts others : List (Value × Int)}
    (h : counts.Perm others) : (categories.foldl addCategory counts).Perm (categories.foldl addCategory others) := by
  induction categories generalizing counts others with
  | nil => exact h
  | cons category rest ih => exact ih (addCategory_perm h category)

/-- Categories that are not mistaken for each other can be counted in any order. -/
theorem foldl_addCategory_perm {categories others : List Value} (h : categories.Perm others)
    (clear : ∀ category ∈ categories, ∀ other ∈ categories, category.sameKey other = true → category = other)
    (counts : List (Value × Int)) :
    (categories.foldl addCategory counts).Perm (others.foldl addCategory counts) := by
  induction h generalizing counts with
  | nil => exact List.Perm.refl _
  | cons category _ ih =>
    exact ih (fun first hfirst second hsecond ↦
      clear first (List.mem_cons_of_mem _ hfirst) second (List.mem_cons_of_mem _ hsecond)) _
  | swap first second rest =>
    have hfirst : first ∈ second :: first :: rest := List.mem_cons_of_mem _ List.mem_cons_self
    have hsecond : second ∈ second :: first :: rest := List.mem_cons_self
    have hswapped := fun same ↦ (clear first hfirst second hsecond same).symm
    exact foldl_addCategory_perm_counts rest (addCategory_comm (clear second hsecond first hfirst) hswapped counts)
  | trans hleft _ ihleft ihright =>
    refine (ihleft clear counts).trans (ihright (fun first hfirst second hsecond ↦ ?_) counts)
    exact clear first (hleft.mem_iff.mpr hfirst) second (hleft.mem_iff.mpr hsecond)

/-- Texts can be counted before everything else. -/
theorem foldl_addCategory_texts_first (categories : List Value) (counts : List (Value × Int)) :
    (categories.foldl addCategory counts).Perm
      ((categories.filter (·.isText) ++ categories.filter (!·.isText)).foldl addCategory counts) := by
  induction categories generalizing counts with
  | nil => exact List.Perm.refl _
  | cons category rest ih =>
    cases htext : category.isText with
    | true =>
      rw [List.filter_cons_of_pos htext, List.filter_cons_of_neg (by simp [htext]), List.cons_append]
      exact ih (addCategory counts category)
    | false =>
      rw [List.filter_cons_of_neg (by simp [htext]), List.filter_cons_of_pos (by simp [htext])]
      have hmoved : ((category :: rest.filter (·.isText)).foldl addCategory counts).Perm
          ((rest.filter (·.isText) ++ [category]).foldl addCategory counts) := by
        apply foldl_addCategory_perm (List.perm_append_singleton _ _).symm
        intro first hfirst second hsecond same
        rcases List.mem_cons.mp hfirst with rfl | hfirst
        · rcases List.mem_cons.mp hsecond with rfl | hsecond
          · rfl
          · exact (Value.eq_of_sameKey_of_isText (List.mem_filter.mp hsecond).2 (Or.inr same)).symm
        · exact Value.eq_of_sameKey_of_isText (List.mem_filter.mp hfirst).2 (Or.inl same)
      refine (ih (addCategory counts category)).trans ?_
      rw [List.append_cons, List.foldl_append, List.foldl_append]
      exact foldl_addCategory_perm_counts _ hmoved

/-- The counts depend on the number of times that each text comes, and on the order of everything else. -/
theorem foldl_addCategory_perm_of_filter_eq {categories others : List Value} (h : categories.Perm others)
    (hrest : categories.filter (!·.isText) = others.filter (!·.isText)) :
    (categories.foldl addCategory []).Perm (others.foldl addCategory []) := by
  have htexts : ((categories.filter (·.isText)).foldl addCategory []).Perm
      ((others.filter (·.isText)).foldl addCategory []) := by
    refine foldl_addCategory_perm (h.filter _) (fun first hfirst second _ same ↦ ?_) []
    exact Value.eq_of_sameKey_of_isText (List.mem_filter.mp hfirst).2 (Or.inl same)
  calc
    (categories.foldl addCategory []).Perm
        ((categories.filter (·.isText) ++ categories.filter (!·.isText)).foldl addCategory []) :=
      foldl_addCategory_texts_first categories []
    List.Perm _ ((others.filter (·.isText) ++ others.filter (!·.isText)).foldl addCategory []) := by
      rw [List.foldl_append, List.foldl_append, hrest]
      exact foldl_addCategory_perm_counts _ htexts
    List.Perm _ (others.foldl addCategory []) := (foldl_addCategory_texts_first others []).symm

/-! ## Merging in another order -/

/-- Tallies that agree in everything but the order of their entries. -/
structure SameVerdict (first second : Tally) : Prop where
  vulnerabilities : first.vulnerabilities.Perm second.vulnerabilities
  optimizations : first.optimizations.Perm second.optimizations
  severityCounts : first.severityCounts = second.severityCounts
  categoryCounts : first.categoryCounts.Perm second.categoryCounts
  score (deductions : Deductions) :
    Score.ofFindings deductions first.vulnerabilities = Score.ofFindings deductions second.vulnerabilities

/-- If a key belongs to one finding only, then it does not matter which one comes first. -/
theorem mem_unique_iff {findings : List Finding} {finding : Finding}
    (single : ∀ first ∈ findings, ∀ second ∈ findings, first.key = second.key → first = second) :
    finding ∈ unique findings ↔ finding ∈ findings := by
  constructor
  · intro h
    exact (unique_sublist findings).subset h
  · intro h
    obtain ⟨kept, hkept, hkey⟩ := List.mem_map.mp (key_mem_unique h)
    have hsame : kept = finding := single kept ((unique_sublist findings).subset hkept) finding h hkey
    rwa [hsame] at hkept

/-- Which findings are kept depends on the set of them only, if no two of them share a key. -/
theorem unique_perm {findings others : List Finding} (same : ∀ finding, finding ∈ findings ↔ finding ∈ others)
    (single : ∀ first ∈ findings, ∀ second ∈ findings, first.key = second.key → first = second) :
    (unique findings).Perm (unique others) := by
  have hothers : ∀ first ∈ others, ∀ second ∈ others, first.key = second.key → first = second := by
    intro first hfirst second hsecond
    exact single first ((same first).mpr hfirst) second ((same second).mpr hsecond)
  rw [List.perm_ext_iff_of_nodup (nodup_keys_unique findings).of_map (nodup_keys_unique others).of_map]
  intro finding
  rw [mem_unique_iff single, mem_unique_iff hothers, same]

/-- Categories that are no texts come from the model, in the order of its findings. -/
theorem filter_categories_combined {outcomes : List Outcome} (model : List Finding)
    (texts : ∀ finding ∈ Outcome.reported outcomes, finding.category.isText = true) :
    ((combined outcomes model).vulnerabilities.map (·.category)).filter (!·.isText) =
      (ranked ((dropRepeated ((Outcome.reported outcomes).map Finding.key) (model.map (·.fromModel))).filter
        (!·.category.isText))).map (·.category) := by
  have hstatic : (unique (Outcome.reported outcomes)).filter (!·.category.isText) = [] := by
    rw [List.filter_eq_nil_iff]
    intro finding hfinding
    simp [texts finding ((unique_sublist _).subset hfinding)]
  rw [vulnerabilities_combined, List.filter_map]
  congr 1
  calc
    (ranked _).filter (!·.category.isText) = ranked (List.filter (!·.category.isText) _) := filter_ranked _ _
    _ = _ := by rw [List.filter_append, hstatic, List.nil_append]

/-- Outcomes with the same findings lead to the same verdict. Which findings of a model are new depends on the keys of
the analyzers only as a set. -/
theorem combined_sameVerdict {outcomes others : List Outcome} (model : List Finding)
    (hreported : ∀ finding, finding ∈ Outcome.reported outcomes ↔ finding ∈ Outcome.reported others)
    (hadvised : ∀ finding, finding ∈ Outcome.advised outcomes ↔ finding ∈ Outcome.advised others)
    (singleReported : ∀ first ∈ Outcome.reported outcomes, ∀ second ∈ Outcome.reported outcomes,
      first.key = second.key → first = second)
    (singleAdvised : ∀ first ∈ Outcome.advised outcomes, ∀ second ∈ Outcome.advised outcomes,
      first.key = second.key → first = second)
    (texts : ∀ finding ∈ Outcome.reported outcomes, finding.category.isText = true) :
    SameVerdict (combined outcomes model) (combined others model) := by
  have htail : dropRepeated ((Outcome.reported outcomes).map Finding.key) (model.map (·.fromModel)) =
      dropRepeated ((Outcome.reported others).map Finding.key) (model.map (·.fromModel)) := by
    apply dropRepeated_congr
    intro key
    simp only [List.mem_map, hreported]
  have hvulnerabilities : (combined outcomes model).vulnerabilities.Perm (combined others model).vulnerabilities := by
    rw [vulnerabilities_combined, vulnerabilities_combined, htail]
    exact (ranked_perm _).trans
      (((unique_perm hreported singleReported).append_right _).trans (ranked_perm _).symm)
  have hoptimizations : (combined outcomes model).optimizations.Perm (combined others model).optimizations :=
    (ranked_perm _).trans ((unique_perm hadvised singleAdvised).trans (ranked_perm _).symm)
  have hrest : ((combined outcomes model).vulnerabilities.map (·.category)).filter (!·.isText) =
      ((combined others model).vulnerabilities.map (·.category)).filter (!·.isText) := by
    rw [filter_categories_combined model texts,
      filter_categories_combined model fun finding hfinding ↦ texts finding ((hreported finding).mpr hfinding), htail]
  exact
    { vulnerabilities := hvulnerabilities
      optimizations := hoptimizations
      severityCounts := countBySeverity_perm hvulnerabilities
      categoryCounts := foldl_addCategory_perm_of_filter_eq (hvulnerabilities.map _) hrest
      score := fun deductions ↦ Score.ofFindings_perm deductions hvulnerabilities }

end Tally

namespace Registry

/-- The built-in analyzers with the given keys, each with the settings for its key. -/
def ofKeys (settings : BuiltIn → SettingsTable) (keys : List BuiltIn) : Registry :=
  ofEntries (keys.map fun key ↦ (key, settings key))

variable {settings : BuiltIn → SettingsTable} {first second : List BuiltIn}

theorem mem_run_ofKeys {source : Value} {outcome : Outcome} :
    outcome ∈ (ofKeys settings first).run source ↔
      ∃ key ∈ first, runOne source (key.withWindows (settings key)) = outcome := by
  simp [ofKeys, ofEntries, run]

/-- Findings of built-in analyzers that have one key are equal, however often the analyzers run. -/
theorem eq_of_mem_flatMap_run {source : Value} {view : Outcome → List Finding}
    (distinct : ((((ofKeys settings BuiltIn.all).run source).flatMap view).map Finding.key).Nodup)
    {finding other : Finding} (hfinding : finding ∈ ((ofKeys settings first).run source).flatMap view)
    (hother : other ∈ ((ofKeys settings first).run source).flatMap view) (hkey : finding.key = other.key) :
    finding = other := by
  have hall : ((ofKeys settings first).run source).flatMap view ⊆
      ((ofKeys settings BuiltIn.all).run source).flatMap view := by
    intro reported hreported
    obtain ⟨outcome, houtcome, hreported⟩ := List.mem_flatMap.mp hreported
    obtain ⟨key, -, hrun⟩ := mem_run_ofKeys.mp houtcome
    exact List.mem_flatMap.mpr ⟨outcome, mem_run_ofKeys.mpr ⟨key, key.mem_all, hrun⟩, hreported⟩
  exact List.inj_on_of_nodup_map distinct (hall hfinding) (hall hother) hkey

theorem mem_flatMap_run_congr (same : ∀ key, key ∈ first ↔ key ∈ second) {source : Value}
    (view : Outcome → List Finding) (finding : Finding) :
    finding ∈ ((ofKeys settings first).run source).flatMap view ↔
      finding ∈ ((ofKeys settings second).run source).flatMap view := by
  simp only [List.mem_flatMap, mem_run_ofKeys, same]

theorem nodup_all (settings : BuiltIn → SettingsTable) :
    ((BuiltIn.all.map fun key ↦ (key, settings key)).map Prod.fst).Nodup := by
  rw [List.map_map]
  exact (by decide : BuiltIn.all.Nodup).map fun _ _ h ↦ h

/-- The verdicts on a source agree if the same analyzers run, in any order and any number of times. -/
theorem combined_run_sameVerdict (settings : BuiltIn → SettingsTable) (same : ∀ key, key ∈ first ↔ key ∈ second)
    (source : String) (model : List Finding) :
    (Tally.combined ((ofKeys settings first).run (.str source)) model).SameVerdict
      (Tally.combined ((ofKeys settings second).run (.str source)) model) := by
  apply Tally.combined_sameVerdict
  · exact mem_flatMap_run_congr same _
  · exact mem_flatMap_run_congr same _
  · intro finding hfinding other hother
    exact eq_of_mem_flatMap_run (nodup_keys_reported (nodup_all settings) source) hfinding hother
  · intro finding hfinding other hother
    exact eq_of_mem_flatMap_run (nodup_keys_advised (nodup_all settings) source) hfinding hother
  · intro finding hfinding
    exact isText_of_mem_reported hfinding

/-- A category that cannot be counted comes from the model. -/
theorem exists_unhashable_of_not_countable {entries : List (BuiltIn × SettingsTable)} {source : String}
    {model : List Finding} (h : ¬ (Tally.combined ((ofEntries entries).run (.str source)) model).Countable) :
    ∃ finding ∈ model, finding.category.hashable = false := by
  rw [Tally.Countable] at h
  push Not at h
  obtain ⟨finding, hfinding, hunhashable⟩ := h
  rw [Tally.vulnerabilities_combined, Tally.mem_ranked, List.mem_append] at hfinding
  rcases hfinding with hstatic | hmodel
  · have htext := isText_of_mem_reported ((Tally.unique_sublist _).subset hstatic)
    exact absurd (Value.hashable_of_isText htext) hunhashable
  · obtain ⟨original, horiginal, rfl⟩ := List.mem_map.mp ((Tally.dropRepeated_sublist _ _).subset hmodel)
    exact ⟨original, horiginal, Bool.eq_false_iff.mpr hunhashable⟩

/-- Two registries with the same built-in analyzers, in any order and with any repetitions, give the same verdict
together with any findings of a language model: vulnerabilities and optimizations are the same up to their order, and
the counts and the score are equal. If the model brings a category that cannot be counted, then neither registry or both
give the error for it. -/
theorem builtIn_order_irrelevant (settings : BuiltIn → SettingsTable) (first second : List BuiltIn)
    (same : ∀ key, key ∈ first ↔ key ∈ second) (source : String) (model : List Finding) :
    (∃ tally other,
        Tally.ofOutcomes (((ofKeys settings first).run (.str source)).map .proper) (model.map .proper) = .ok tally ∧
        Tally.ofOutcomes (((ofKeys settings second).run (.str source)).map .proper) (model.map .proper) = .ok other ∧
        tally.SameVerdict other) ∨
      (∃ finding ∈ model, finding.category.hashable = false) ∧
        Tally.ofOutcomes (((ofKeys settings first).run (.str source)).map .proper) (model.map .proper) =
          .error .unhashableCategory ∧
        Tally.ofOutcomes (((ofKeys settings second).run (.str source)).map .proper) (model.map .proper) =
          .error .unhashableCategory := by
  have hverdict := combined_run_sameVerdict settings same source model
  by_cases hcountable : (Tally.combined ((ofKeys settings first).run (.str source)) model).Countable
  · have hother : (Tally.combined ((ofKeys settings second).run (.str source)) model).Countable :=
      fun finding hfinding ↦ hcountable finding (hverdict.vulnerabilities.mem_iff.mpr hfinding)
    exact Or.inl ⟨_, _, Tally.ofOutcomes_of_countable hcountable, Tally.ofOutcomes_of_countable hother, hverdict⟩
  · have hother : ¬ (Tally.combined ((ofKeys settings second).run (.str source)) model).Countable :=
      fun h ↦ hcountable fun finding hfinding ↦ h finding (hverdict.vulnerabilities.mem_iff.mp hfinding)
    exact Or.inr ⟨exists_unhashable_of_not_countable hcountable, Tally.ofOutcomes_of_not_countable hcountable,
      Tally.ofOutcomes_of_not_countable hother⟩

def numberedFinding : Finding where
  category := .int 7
  severity := .high
  description := .str "Unlimited approval"
  origin := .ai
  named := rfl

def narrowTotal : String := "uint8 total = tx.origin.balance + 1;"

theorem builtIn_order_irrelevant_reversed :
    (∀ key, key ∈ [BuiltIn.overflow, .txOrigin, .gas] ↔ key ∈ [BuiltIn.gas, .txOrigin, .overflow, .gas]) ∧
      ∃ tally other,
        Tally.ofOutcomes (((ofKeys (fun _ ↦ []) [.overflow, .txOrigin, .gas]).run (.str narrowTotal)).map .proper)
          [.proper numberedFinding] = .ok tally ∧
        Tally.ofOutcomes (((ofKeys (fun _ ↦ []) [.gas, .txOrigin, .overflow, .gas]).run (.str narrowTotal)).map .proper)
          [.proper numberedFinding] = .ok other ∧
        tally.SameVerdict other := by
  have hsame : ∀ key, key ∈ [BuiltIn.overflow, .txOrigin, .gas] ↔ key ∈ [BuiltIn.gas, .txOrigin, .overflow, .gas] := by
    intro key
    cases key <;> decide
  refine ⟨hsame, (builtIn_order_irrelevant (fun _ ↦ []) _ _ hsame narrowTotal [numberedFinding]).resolve_right ?_⟩
  rintro ⟨⟨finding, hfinding, hunhashable⟩, -⟩
  rw [List.mem_singleton.mp hfinding] at hunhashable
  cases hunhashable

end Registry

end ContractAudit
