import ContractAudit.Proofs.AnalyzerFaults
import ContractAudit.Proofs.BlockReach
import ContractAudit.Proofs.CatalogueLayout
import ContractAudit.Proofs.FunctionNames
import ContractAudit.Proofs.GuardLocality
import ContractAudit.Proofs.WholeWords

/-!
# Unused variables

A local variable is reported as unused by means of a table that is filled in one pass: for every word the last line with
it. Looking up the line of a declaration there and counting the name on that line comes to reading forwards from the
declaration, because the declaration itself is a place where its name stands. So a variable is reported exactly if its
name stands nowhere else from the line of the declaration on. What comes before that line, such as a variable of the
same name in an earlier function, has no influence.
-/

namespace ContractAudit.Rule.Gas

open Text Pattern

/-! ## Depths -/

/-- One more line has the depth that the lines above it leave. -/
theorem depths_concat (code : List Line) (last : Line) :
    depths (code ++ [last]) = depths code ++ [Scope.depthChange code.flatten] := by
  have hdepth : (code.foldl (fun (state : Int × List Int) line ↦
      (state.1 + Scope.depthChange line, state.1 :: state.2)) (0, [])).1 = Scope.depthChange code.flatten := by
    induction code using List.reverseRecOn with
    | nil => rfl
    | append_singleton code line ih =>
      rw [List.foldl_append, List.flatten_append, Scope.depthChange_append, ← ih]
      simp
  rw [depths, depths, List.foldl_append, ← hdepth]
  simp

/-- The depth at a line is the surplus of opening braces on the lines above it. -/
theorem getElem?_depths {code : List Line} {index : Nat} (h : index < code.length) :
    (depths code)[index]? = some (Scope.depthChange (code.take index).flatten) := by
  induction code using List.reverseRecOn with
  | nil => cases h
  | append_singleton code last ih =>
    rw [depths_concat]
    rw [List.length_append, List.length_singleton] at h
    rcases Nat.lt_succ_iff_lt_or_eq.mp h with hlt | rfl
    · rw [List.getElem?_append_left (by rwa [length_depths]), List.take_append_of_le_length hlt.le, ih hlt]
    · rw [List.take_left, ← length_depths, List.getElem?_concat_length]

/-! ## Declarations -/

def DeclaresLocal (line : Line) (name : List Char) : Prop :=
  ∃ found, localVariable.matchStart? line = some found ∧ found.group? 1 = some name

theorem isWordCharacter_eq_false_of_isBlank {c : Char} (h : isBlank c = true) : isWordCharacter c = false := by
  rw [Bool.eq_false_iff]
  intro hword
  exact Bool.false_ne_true ((isBlank_eq_false_of_isWordCharacter hword).symm.trans h)

/-- The declared name stands on the line of its declaration. -/
theorem exists_standsAt_of_matchStart? {line : Line} {found : Match} (h : localVariable.matchStart? line = some found) :
    ∃ name offset, found.group? 1 = some name ∧ IsWord name ∧ StandsAt name none line offset := by
  rw [matchStart?, localVariable, matchAt?_append_assoc] at h
  obtain ⟨front, name, behind, rfl, hlookup, hfront, hname, hbehind⟩ := exists_capture_around rfl h
  have hname : IsWord name := takes_some1_iff.mp hname
  refine ⟨name, front.length, Match.group?_eq hlookup, hname, standsAt_append ?_ ?_⟩
  · obtain ⟨left, gap, rfl, -, hgap⟩ := hfront
    obtain ⟨hne, hblank⟩ := takes_some1_iff.mp hgap
    obtain ⟨c, hc, hlast⟩ := exists_lastOr_eq_some hne (lastOr none left)
    rw [lastOr_append, hlast]
    exact isWordCharacter_eq_false_of_isBlank (hblank c hc)
  · obtain ⟨blanks, _, rfl, hblank, sign, rfl, hsign⟩ := hbehind
    cases blanks with
    | nil =>
      have hsigns : "=;".toList = ['=', ';'] := rfl
      rw [hsigns] at hsign
      have hmem : sign ∈ ['=', ';'] := List.contains_iff_mem.mp hsign
      rcases List.mem_pair.mp hmem with rfl | rfl
      · rfl
      · rfl
    | cons c blanks => exact isWordCharacter_eq_false_of_isBlank (hblank c List.mem_cons_self)

/-! ## The table of last lines -/

variable {name : List Char} {index : Nat}

/-- The words of a line hide what the table said about them before. -/
theorem lookup_foldl_cons (words : List (List Char)) (seen : List (List Char × Nat)) :
    (words.foldl (fun seen word ↦ (word, index) :: seen) seen).lookup name =
      if words.contains name then some index else seen.lookup name := by
  induction words generalizing seen with
  | nil => rfl
  | cons word words ih =>
    rw [List.foldl_cons, ih, List.contains_cons]
    by_cases hname : name = word
    · rw [hname, List.lookup_cons_self, beq_self_eq_true, Bool.true_or, if_pos rfl, ite_self]
    · rw [List.lookup_cons, beq_false_of_ne hname, Bool.false_or]

theorem lastSeen_concat (code : List Line) (last : Line) :
    lastSeen (code ++ [last]) =
      (wordsOf last).foldl (fun seen word ↦ (word, code.length) :: seen) (lastSeen code) := by
  rw [lastSeen, List.zipIdx_append, List.foldl_append, Nat.zero_add]
  rfl

/-- The table that the pass leaves has for every word the last line with it. -/
theorem lookup_lastSeen (code : List Line) :
    (lastSeen code).lookup name = Scope.lastIndex? (·.contains name) (code.map wordsOf) := by
  induction code using List.reverseRecOn with
  | nil => rfl
  | append_singleton code last ih =>
    rw [lastSeen_concat, lookup_foldl_cons, ih, List.map_append, List.map_singleton, Scope.lastIndex?_concat,
      List.length_map]

theorem sum_count_drop_eq_zero_iff {lineWords : List (List (List Char))} :
    ((lineWords.drop (index + 1)).map (List.count name)).sum = 0 ↔
      ∀ place words, lineWords[place]? = some words → words.contains name = true → place ≤ index := by
  rw [List.sum_eq_zero_iff_forall_eq_nat, List.forall_mem_map]
  constructor
  · intro hnone place words hwords hcontains
    by_contra hplace
    obtain ⟨distance, rfl⟩ := Nat.exists_eq_add_of_le (Nat.lt_of_not_le hplace)
    rw [← List.getElem?_drop] at hwords
    exact List.count_eq_zero.mp (hnone words (List.mem_of_getElem? hwords)) (List.contains_iff_mem.mp hcontains)
  · intro hle words hwords
    obtain ⟨distance, hdistance⟩ := List.mem_iff_getElem?.mp hwords
    rw [List.getElem?_drop] at hdistance
    rw [List.count_eq_zero]
    intro hmem
    have hplace := hle _ words hdistance (List.contains_iff_mem.mpr hmem)
    omega

/-- The last line with a word is the given one and has it once if and only if the word comes once from there on. -/
theorem last_and_single_iff {lineWords : List (List (List Char))} {words : List (List Char)}
    (hwords : lineWords[index]? = some words) (hname : name ∈ words) :
    Scope.lastIndex? (·.contains name) lineWords = some index ∧ words.count name = 1 ↔
      ((lineWords.drop index).map (List.count name)).sum = 1 := by
  obtain ⟨hindex, hget⟩ := List.getElem?_eq_some_iff.mp hwords
  have hdrop : lineWords.drop index = words :: lineWords.drop (index + 1) := by
    rw [List.drop_eq_getElem_cons hindex, hget]
  have hpos : 0 < words.count name := List.count_pos_iff.mpr hname
  rw [Scope.lastIndex?_eq_some_iff, ← sum_count_drop_eq_zero_iff, hdrop, List.map_cons, List.sum_cons]
  constructor
  · rintro ⟨⟨-, hnone⟩, hone⟩
    rw [hone, hnone]
  · intro hsum
    exact ⟨⟨⟨words, hwords, List.contains_iff_mem.mpr hname⟩, by omega⟩, by omega⟩

/-- For the name that is declared at a line, the table of last lines says what reading on from there does. -/
theorem listed_iff {code : List Line} {line : Line} (hline : code[index]? = some line)
    (hdeclares : DeclaresLocal line name) :
    (lastSeen code).lookup name = some index ∧ ((anyName [name]).allMatches line).length = 1 ↔
      ∃! offset, StandsAt name none (joinLines (code.drop index)) offset := by
  obtain ⟨found, hfound, hgroup⟩ := hdeclares
  obtain ⟨declared, offset, hdeclared, hname, hstands⟩ := exists_standsAt_of_matchStart? hfound
  obtain rfl : declared = name := Option.some.inj (hdeclared.symm.trans hgroup)
  have hwords : (code.map wordsOf)[index]? = some (wordsOf line) := by
    rw [List.getElem?_map, hline, Option.map_some]
  have hmem : declared ∈ wordsOf line := by
    rw [← List.count_pos_iff, count_wordsOf hname]
    exact hstands.occurrences_pos hname
  rw [lookup_lastSeen, length_allMatches_anyName hname, ← count_wordsOf hname, last_and_single_iff hwords hmem,
    ← List.map_drop, sum_count_wordsOf hname, occurrences_eq_one_iff hname]

/-! ## Reports -/

theorem mem_reportLines {sheet : Sheet} {advise : Line → Nat → Option Advice} {finding : Finding} :
    finding ∈ reportLines sheet advise ↔
      ∃ index line advice, sheet.code[index]? = some line ∧ advise line index = some advice ∧
        finding = advice.atLine sheet index := by
  rw [reportLines, List.mem_filterMap]
  constructor
  · rintro ⟨⟨line, index⟩, hentry, hadvice⟩
    obtain ⟨advice, hgiven, rfl⟩ := Option.map_eq_some_iff.mp hadvice
    exact ⟨index, line, advice, List.mem_zipIdx_iff_getElem?.mp hentry, hgiven, rfl⟩
  · rintro ⟨index, line, advice, hline, hadvice, rfl⟩
    exact ⟨(line, index), List.mem_zipIdx_iff_getElem?.mpr hline, Option.map_eq_some_iff.mpr ⟨advice, hadvice, rfl⟩⟩

/-- Issues of this category come from one pass. -/
theorem mem_unusedVariables_iff {sheet : Sheet} {finding : Finding} :
    finding ∈ unusedVariables sheet ↔ finding ∈ issues sheet ∧ finding.category = .str "Unused Variable" := by
  rw [← (layout_unusedVariables sheet).mem_and_category_iff, issues, List.mem_mergeSort]
  simp only [List.mem_append, or_and_right,
    (layout_singleLines sheet).not_mem_of_category "Unused Variable" (by decide),
    (layout_storageReadsInLoops sheet).not_mem_of_category "Unused Variable" (by decide),
    (layout_inefficientTypes sheet).not_mem_of_category "Unused Variable" (by decide),
    (layout_externalCandidates sheet).not_mem_of_category "Unused Variable" (by decide),
    (layout_immutableCandidates sheet).not_mem_of_category "Unused Variable" (by decide), false_or, or_false]

def unusedAt (code : List Line) (line : Line) (index : Nat) : Option Advice :=
  if (depths code).getD index 0 < 2 then none
  else (localVariable.matchStart? line).bind fun found ↦
    if (lastSeen code).lookup (found.group 1) = some index ∧
        ((anyName [found.group 1]).allMatches line).length = 1 then
      some (unusedVariable (String.ofList (found.group 1)))
    else none

theorem unusedVariables_eq (sheet : Sheet) : unusedVariables sheet = reportLines sheet (unusedAt sheet.code) := rfl

/-- A variable is declared inside two blocks at the line with an index, and its name stands nowhere else from there
on. -/
structure Unused (code : List Line) (name : List Char) (index : Nat) : Prop where
  deep : 2 ≤ Scope.depthChange (code.take index).flatten
  declared : ∃ line, code[index]? = some line ∧ DeclaresLocal line name
  once : ∃! offset, StandsAt name none (joinLines (code.drop index)) offset

/-- The advice at a line is about an unused variable that is declared there. -/
theorem unusedAt_eq_some_iff {code : List Line} {line : Line} (hline : code[index]? = some line)
    {advice : Advice} : unusedAt code line index = some advice ↔
      ∃ name, Unused code name index ∧ advice = unusedVariable (String.ofList name) := by
  have hdepth : (depths code).getD index 0 = Scope.depthChange (code.take index).flatten := by
    rw [List.getD_eq_getElem?_getD, getElem?_depths (List.getElem?_eq_some_iff.mp hline).1, Option.getD_some]
  rw [unusedAt, hdepth, Option.ite_none_left_eq_some, Option.bind_eq_some_iff, Int.not_lt]
  constructor
  · rintro ⟨hdeep, found, hfound, hadvice⟩
    obtain ⟨hlisted, hadvice⟩ := Option.ite_none_right_eq_some.mp hadvice
    obtain ⟨name, -, hgroup, -⟩ := exists_standsAt_of_matchStart? hfound
    rw [Match.group_eq hgroup] at hlisted hadvice
    have hdeclares : DeclaresLocal line name := ⟨found, hfound, hgroup⟩
    have honce := (listed_iff hline hdeclares).mp hlisted
    exact ⟨name, ⟨hdeep, ⟨line, hline, hdeclares⟩, honce⟩, (Option.some.inj hadvice).symm⟩
  · rintro ⟨name, ⟨hdeep, ⟨other, hother, hdeclares⟩, honce⟩, rfl⟩
    obtain rfl : line = other := Option.some.inj (hline.symm.trans hother)
    have hlisted := (listed_iff hline hdeclares).mpr honce
    obtain ⟨found, hfound, hgroup⟩ := hdeclares
    refine ⟨hdeep, found, hfound, ?_⟩
    rw [Match.group_eq hgroup, if_pos hlisted]

/-- The variables that are reported are the unused ones. -/
theorem mem_unusedVariables {sheet : Sheet} {finding : Finding} :
    finding ∈ unusedVariables sheet ↔ ∃ index name, Unused sheet.code name index ∧
      finding = (unusedVariable (String.ofList name)).atLine sheet index := by
  rw [unusedVariables_eq, mem_reportLines]
  constructor
  · rintro ⟨index, line, advice, hline, hadvice, rfl⟩
    obtain ⟨name, hunused, rfl⟩ := (unusedAt_eq_some_iff hline).mp hadvice
    exact ⟨index, name, hunused, rfl⟩
  · rintro ⟨index, name, hunused, rfl⟩
    obtain ⟨line, hline, -⟩ := hunused.declared
    exact ⟨index, line, _, hline, (unusedAt_eq_some_iff hline).mpr ⟨name, hunused, rfl⟩, rfl⟩

/-- The description tells the name. -/
theorem eq_of_description_eq {first second : String}
    (h : (unusedVariable first).description = (unusedVariable second).description) : first = second := by
  have htext : "Local variable '" ++ first ++ "' is declared but never used" =
      "Local variable '" ++ second ++ "' is declared but never used" := h
  rwa [String.append_left_inj, String.append_right_inj] at htext

/-- The rule reports that a local variable of that name, declared at the line with the index, is not used. -/
def ReportsUnused (outcome : Outcome) (name : String) (index : Nat) : Prop :=
  ∃ finding ∈ outcome.issues, finding.category = .str "Unused Variable" ∧ finding.line = some (.ofIndex index) ∧
    finding.description = .str ("Local variable '" ++ name ++ "' is declared but never used")

/-- Every source is judged, and a variable is reported as unused if and only if it is: it is declared where the braces
above leave at least two blocks open, and from the line of its declaration to the end there is exactly one place where
its name stands as a whole word. -/
theorem unused_variables_exact (source : String) :
    ∃ outcome, analyzer.check (.str source) = .ok outcome ∧
      ∀ name index, ReportsUnused outcome name index ↔
        Unused (splitLines (Comment.strip source.toList)) name.toList index := by
  refine ⟨_, Analyzer.check_ofRule _ _ _ _ _, fun name index ↦ ?_⟩
  constructor
  · rintro ⟨finding, hfinding, hcategory, hindex, hdescription⟩
    obtain ⟨place, written, hunused, rfl⟩ := mem_unusedVariables.mp (mem_unusedVariables_iff.mpr ⟨hfinding, hcategory⟩)
    obtain rfl : place = index := Nat.succ.inj (congrArg Subtype.val (Option.some.inj hindex))
    have hname : String.ofList written = name := eq_of_description_eq (Value.str.inj hdescription)
    rw [← hname, String.toList_ofList]
    exact hunused
  · intro hunused
    have hmem : (unusedVariable (String.ofList name.toList)).atLine (.ofSource source.toList) index ∈
        unusedVariables (.ofSource source.toList) := mem_unusedVariables.mpr ⟨index, name.toList, hunused, rfl⟩
    rw [String.ofList_toList] at hmem
    obtain ⟨hissue, hcategory⟩ := mem_unusedVariables_iff.mp hmem
    exact ⟨_, hissue, hcategory, rfl, rfl⟩

/-- Two functions with a variable of one name. The first one uses it, and the second one has a longer word only. -/
def reusedName : List Line :=
  ["contract C \x7b".toList, "function f() \x7b".toList, "uint n = 1;".toList, "g(n);".toList, "\x7d".toList,
    "function h() \x7b".toList, "uint n = 2;".toList, "nn += 1;".toList]

theorem unused_variables_exact_reusedName :
    ∃ outcome, analyzer.check (.str (String.ofList (joinLines reusedName))) = .ok outcome ∧
      ReportsUnused outcome "n" 6 ∧ ¬ ReportsUnused outcome "n" 2 := by
  obtain ⟨outcome, hchecked, hreported⟩ := unused_variables_exact (String.ofList (joinLines reusedName))
  have hlines : splitLines (Comment.strip (joinLines reusedName)) = reusedName := by decide +kernel
  rw [String.toList_ofList, hlines] at hreported
  have hname : IsWord "n".toList := ⟨List.cons_ne_nil 'n' [], List.forall_mem_singleton.mpr rfl⟩
  refine ⟨outcome, hchecked, (hreported "n" 6).mpr ⟨?_, ?_, ?_⟩, fun h ↦ ?_⟩
  · decide +kernel
  · have hdeclared : (localVariable.matchStart? "uint n = 2;".toList).bind (·.group? 1) = some "n".toList := by
      decide +kernel
    obtain ⟨found, hfound, hgroup⟩ := Option.bind_eq_some_iff.mp hdeclared
    exact ⟨_, rfl, found, hfound, hgroup⟩
  · rw [← occurrences_eq_one_iff hname]
    decide +kernel
  · have honce := ((hreported "n" 2).mp h).once
    rw [← occurrences_eq_one_iff hname] at honce
    revert honce
    decide +kernel

end ContractAudit.Rule.Gas
