import ContractAudit.Proofs.UnusedVariables

/-!
# Storage reads in loops

A loop is reported if a line of its body reads storage. The names of all state variables are searched for at once, by a
choice between them that must end at a word boundary. A name that starts another one can be chosen first, but then the
boundary is missing and the longer name is tried as well; so the choice finds a name exactly where the name stands as a
whole word, in whatever order the names are listed. The body of a loop reaches from the line below its header to the
end of the block that the raw lines open there.
-/

namespace ContractAudit

theorem Text.mem_itemsBetween {α : Type} {first last : Nat} {items : List α} {item : α} :
    item ∈ itemsBetween first last items ↔ ∃ index, first ≤ index ∧ index ≤ last ∧ items[index]? = some item := by
  rw [itemsBetween, List.mem_iff_getElem?]
  constructor
  · rintro ⟨distance, hitem⟩
    rw [List.getElem?_take, Option.ite_none_right_eq_some, List.getElem?_drop] at hitem
    exact ⟨first + distance, by omega, by omega, hitem.2⟩
  · rintro ⟨index, hfirst, hlast, hitem⟩
    obtain ⟨distance, rfl⟩ := Nat.exists_eq_add_of_le hfirst
    refine ⟨distance, ?_⟩
    rw [List.getElem?_take, Option.ite_none_right_eq_some, List.getElem?_drop]
    exact ⟨by omega, hitem⟩

namespace Rule.Gas

open Text Pattern

/-! ## Names as whole words -/

section Names

variable {name : List Char} {names : List (List Char)} {before : Option Char} {text : List Char}

/-- A word stands in a text where the text can be cut around it. -/
theorem exists_standsAt_iff :
    (∃ offset, StandsAt name before text offset) ↔
      ∃ front behind, text = front ++ (name ++ behind) ∧ (lastOr before front).any isWordCharacter = false ∧
        behind.head?.any isWordCharacter = false := by
  constructor
  · rintro ⟨offset, hfront, ⟨behind, hbehind⟩, hstop⟩
    refine ⟨text.take offset, behind, ?_, hfront, ?_⟩
    · rw [hbehind, List.take_append_drop]
    · rwa [← List.drop_drop, ← hbehind, List.drop_left] at hstop
  · rintro ⟨front, behind, rfl, hfront, hbehind⟩
    exact ⟨front.length, standsAt_append hfront hbehind⟩

/-- The choice between some words occurs on a line exactly if one of the words stands there. -/
theorem occursIn_anyName_iff (hnames : ∀ name ∈ names, IsWord name) {line : Line} :
    (anyName names).occursIn line = true ↔ ∃ name ∈ names, ∃ offset, StandsAt name none line offset := by
  have hlast (front : List Char) : lastOr none front = front.getLast? := Option.or_none
  simp only [occursIn_iff, takes_anyName_iff hnames, exists_standsAt_iff, hlast]
  constructor
  · rintro ⟨front, name, behind, hline, hmem, hfront, hbehind⟩
    exact ⟨name, hmem, front, behind, hline, hfront, hbehind⟩
  · rintro ⟨name, hmem, front, behind, hline, hfront, hbehind⟩
    exact ⟨front, name, behind, hline, hmem, hfront, hbehind⟩

end Names

/-! ## State variables -/

variable {code : List Line} {name : List Char} {index : Nat}

/-- The line with the index declares a variable of that name that is neither constant nor immutable, where the braces
above leave one block open. -/
structure DeclaresState (code : List Line) (name : List Char) (index : Nat) : Prop where
  depth : Scope.depthChange (code.take index).flatten = 1
  declared : ∃ line found, code[index]? = some line ∧ fixedKeyword.occursIn line = false ∧
    stateVariable.matchStart? line = some found ∧ found.group? 1 = some name

/-- Some line declares a state variable of that name. -/
def IsStateVariable (code : List Line) (name : List Char) : Prop := ∃ index, DeclaresState code name index

theorem exists_group?_of_stateVariable {line : Line} {found : Match} (h : stateVariable.matchStart? line = some found) :
    ∃ name, found.group? 1 = some name ∧ IsWord name := by
  obtain ⟨name, hname, hplain⟩ := exists_plainWord rfl rfl h
  exact ⟨name, hname, hplain.1, fun c hc ↦ (hplain.2 c hc).1⟩

theorem IsStateVariable.isWord (h : IsStateVariable code name) : IsWord name := by
  obtain ⟨-, -, line, found, -, -, hfound, hgroup⟩ := h
  obtain ⟨word, hword, hname⟩ := exists_group?_of_stateVariable hfound
  obtain rfl : word = name := Option.some.inj (hword.symm.trans hgroup)
  exact hname

/-- The names that are searched for are those of the state variables. -/
theorem mem_stateVariables_iff : name ∈ stateVariables code ↔ IsStateVariable code name := by
  rw [stateVariables, List.mem_filterMap]
  constructor
  · rintro ⟨⟨line, depth⟩, hentry, hname⟩
    obtain ⟨index, hindex⟩ := List.mem_iff_getElem?.mp hentry
    obtain ⟨hline, hdepth⟩ := List.getElem?_zip_eq_some.mp hindex
    rw [getElem?_depths (List.getElem?_eq_some_iff.mp hline).1] at hdepth
    obtain ⟨⟨hone, hfixed⟩, hname⟩ := Option.ite_none_right_eq_some.mp hname
    obtain ⟨found, hfound, rfl⟩ := Option.map_eq_some_iff.mp hname
    obtain ⟨word, hword, -⟩ := exists_group?_of_stateVariable hfound
    refine ⟨index, (Option.some.inj hdepth).trans hone, line, found, hline, Bool.eq_false_iff.mpr hfixed, hfound, ?_⟩
    rw [Match.group_eq hword, hword]
  · rintro ⟨index, hdepth, line, found, hline, hfixed, hfound, hgroup⟩
    refine ⟨(line, 1), List.mem_iff_getElem?.mpr ⟨index, List.getElem?_zip_eq_some.mpr ⟨hline, ?_⟩⟩, ?_⟩
    · rw [getElem?_depths (List.getElem?_eq_some_iff.mp hline).1, hdepth]
    · refine Option.ite_none_right_eq_some.mpr ⟨⟨rfl, Bool.eq_false_iff.mp hfixed⟩, ?_⟩
      rw [hfound, Option.map_some, Match.group_eq hgroup]

/-- The name of a state variable stands on the line as a whole word. -/
def NamesState (code : List Line) (line : Line) : Prop :=
  ∃ name, IsStateVariable code name ∧ ∃ offset, StandsAt name none line offset

/-- One choice between all state variables, listed in any order, finds their names on a line. -/
theorem occursIn_anyName_iff_namesState {names : List (List Char)}
    (listed : ∀ name, name ∈ names ↔ IsStateVariable code name) (line : Line) :
    (anyName names).occursIn line = true ↔ NamesState code line := by
  rw [occursIn_anyName_iff fun name hname ↦ ((listed name).mp hname).isWord, NamesState]
  simp only [listed]

/-- A line reads storage if it accesses it or names a state variable. -/
theorem readsStorage_iff {line : Line} :
    readsStorage (stateVariables code) line = true ↔ storageAccess.occursIn line = true ∨ NamesState code line := by
  have hnames : (anyName (stateVariables code)).occursIn line = true ↔ NamesState code line :=
    occursIn_anyName_iff_namesState (fun _ ↦ mem_stateVariables_iff) line
  rw [readsStorage, Bool.or_eq_true, Bool.and_eq_true, hnames, Bool.not_eq_true', List.isEmpty_eq_false_iff]
  refine or_congr_right (and_iff_right_of_imp ?_)
  rintro ⟨name, hname, -⟩
  exact List.ne_nil_of_mem (mem_stateVariables_iff.mpr hname)

/-! ## Loops -/

/-- A loop starts at the line with the index, and a line behind it, up to the end of the block that the raw lines open
there, accesses storage or names a state variable. -/
structure LoopReads (raw code : List Line) (index : Nat) : Prop where
  header : ∃ line, code[index]? = some line ∧ loopHeader.occursIn line = true
  reads : ∃ later line, index < later ∧ later ≤ Scope.blockEnd raw index ∧ code[later]? = some line ∧
    (storageAccess.occursIn line = true ∨ NamesState code line)

/-- The loops that are reported are those whose body, as the lines between two indexes, reads storage. -/
theorem mem_storageReadsInLoops {sheet : Sheet} {finding : Finding} :
    finding ∈ storageReadsInLoops sheet ↔
      ∃ index, LoopReads sheet.raw sheet.code index ∧ finding = storageReadInLoop.atLine sheet index := by
  have hbody (index : Nat) : ((sheet.code.drop (index + 1)).take (Scope.blockEnd sheet.raw index - index)).any
        (readsStorage (stateVariables sheet.code)) = true ↔
      ∃ later line, index < later ∧ later ≤ Scope.blockEnd sheet.raw index ∧ sheet.code[later]? = some line ∧
        (storageAccess.occursIn line = true ∨ NamesState sheet.code line) := by
    have hitems : (sheet.code.drop (index + 1)).take (Scope.blockEnd sheet.raw index - index) =
        itemsBetween (index + 1) (Scope.blockEnd sheet.raw index) sheet.code := by
      rw [itemsBetween, Nat.add_sub_add_right]
    simp only [hitems, List.any_eq_true, mem_itemsBetween, readsStorage_iff]
    constructor
    · rintro ⟨line, ⟨later, hfirst, hlast, hline⟩, hreads⟩
      exact ⟨later, line, hfirst, hlast, hline, hreads⟩
    · rintro ⟨later, line, hfirst, hlast, hline, hreads⟩
      exact ⟨line, ⟨later, hfirst, hlast, hline⟩, hreads⟩
  rw [storageReadsInLoops, mem_reportLines]
  simp only [Option.ite_none_right_eq_some, Bool.and_eq_true, hbody]
  constructor
  · rintro ⟨index, line, advice, hline, ⟨⟨hheader, hreads⟩, ⟨⟩⟩, rfl⟩
    exact ⟨index, ⟨⟨line, hline, hheader⟩, hreads⟩, rfl⟩
  · rintro ⟨index, ⟨⟨line, hline, hheader⟩, hreads⟩, rfl⟩
    exact ⟨index, line, storageReadInLoop, hline, ⟨⟨hheader, hreads⟩, rfl⟩, rfl⟩

/-- Issues of this category come from one pass. -/
theorem mem_storageReadsInLoops_iff {sheet : Sheet} {finding : Finding} :
    finding ∈ storageReadsInLoops sheet ↔
      finding ∈ issues sheet ∧ finding.category = .str "Storage Read in Loop" := by
  rw [← (layout_storageReadsInLoops sheet).mem_and_category_iff, issues, List.mem_mergeSort]
  simp only [List.mem_append, or_and_right,
    (layout_singleLines sheet).not_mem_of_category "Storage Read in Loop" (by decide),
    (layout_unusedVariables sheet).not_mem_of_category "Storage Read in Loop" (by decide),
    (layout_inefficientTypes sheet).not_mem_of_category "Storage Read in Loop" (by decide),
    (layout_externalCandidates sheet).not_mem_of_category "Storage Read in Loop" (by decide),
    (layout_immutableCandidates sheet).not_mem_of_category "Storage Read in Loop" (by decide), false_or, or_false]

/-- The rule reports a storage read in the loop at the line with the index. -/
def ReportsStorageRead (outcome : Outcome) (index : Nat) : Prop :=
  ∃ finding ∈ outcome.issues, finding.category = .str "Storage Read in Loop" ∧ finding.line = some (.ofIndex index)

/-- Every source is judged, and a storage read is reported at a line if and only if a loop starts there whose body
reads storage. The names that count are found by one choice between them, whatever their order and whichever of them
start with others. -/
theorem storage_reads_exact (source : String) :
    ∃ outcome, analyzer.check (.str source) = .ok outcome ∧
      (∀ index, ReportsStorageRead outcome index ↔
        LoopReads (splitLines source.toList) (splitLines (Comment.strip source.toList)) index) ∧
      ∀ names, (∀ name, name ∈ names ↔ IsStateVariable (splitLines (Comment.strip source.toList)) name) →
        ∀ line, (anyName names).occursIn line = true ↔
          NamesState (splitLines (Comment.strip source.toList)) line := by
  refine ⟨_, Analyzer.check_ofRule _ _ _ _ _, fun index ↦ ?_, fun _ ↦ occursIn_anyName_iff_namesState⟩
  constructor
  · rintro ⟨finding, hfinding, hcategory, hindex⟩
    obtain ⟨place, hreads, rfl⟩ := mem_storageReadsInLoops.mp (mem_storageReadsInLoops_iff.mpr ⟨hfinding, hcategory⟩)
    obtain rfl : place = index := Nat.succ.inj (congrArg Subtype.val (Option.some.inj hindex))
    exact hreads
  · intro hreads
    have hmem : storageReadInLoop.atLine (.ofSource source.toList) index ∈
        storageReadsInLoops (.ofSource source.toList) := mem_storageReadsInLoops.mpr ⟨index, hreads, rfl⟩
    obtain ⟨hissue, hcategory⟩ := mem_storageReadsInLoops_iff.mp hmem
    exact ⟨_, hissue, hcategory, rfl⟩

/-- Two state variables, one of which starts with the other. The first loop reads the longer one, and the second loop
has a longer word only. -/
def overlappingNames : List Line :=
  ["contract C \x7b".toList, "uint a;".toList, "uint ab;".toList, "for (;;) \x7b".toList, "g(ab);".toList,
    "\x7d".toList, "while (b) \x7b".toList, "g(abc);".toList, "\x7d".toList]

theorem storage_reads_exact_overlappingNames :
    ∃ outcome, analyzer.check (.str (String.ofList (joinLines overlappingNames))) = .ok outcome ∧
      ReportsStorageRead outcome 3 ∧ ¬ ReportsStorageRead outcome 6 := by
  obtain ⟨outcome, hchecked, hreported, -⟩ := storage_reads_exact (String.ofList (joinLines overlappingNames))
  have hraw : splitLines (joinLines overlappingNames) = overlappingNames := by decide +kernel
  have hcode : splitLines (Comment.strip (joinLines overlappingNames)) = overlappingNames := by decide +kernel
  rw [String.toList_ofList, hraw, hcode] at hreported
  refine ⟨outcome, hchecked, (hreported 3).mpr ⟨⟨_, rfl, by decide +kernel⟩, 4, _, by decide, ?_, rfl, Or.inr ?_⟩, ?_⟩
  · decide +kernel
  · exact ⟨"ab".toList, mem_stateVariables_iff.mp (by decide +kernel), 2, by decide +kernel⟩
  · intro h
    obtain ⟨later, line, hfirst, hlast, hline, hreads⟩ := ((hreported 6).mp h).reads
    have hend : Scope.blockEnd overlappingNames (6 : Nat) = 8 := by decide +kernel
    have hnone : (itemsBetween 7 8 overlappingNames).any (readsStorage (stateVariables overlappingNames)) = false := by
      decide +kernel
    rw [hend] at hlast
    have hmem : line ∈ itemsBetween 7 8 overlappingNames := mem_itemsBetween.mpr ⟨later, hfirst, hlast, hline⟩
    exact List.any_eq_false.mp hnone line hmem (readsStorage_iff.mpr hreads)

end Rule.Gas

end ContractAudit
