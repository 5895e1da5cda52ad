import ContractAudit.Proofs.FirstMatch
import ContractAudit.Proofs.IntegerWindows

/-!
# Names of reported functions

The rule for access control asks two questions about a line: whether an administrative function is declared on it, and
what the name after the first function keyword is. Both read declarations in the same way, and word characters are no
blanks, so a declaration has one name, and an administrative function on a line is one of those that are declared on it.
But the two answers may be about different declarations. A line with several is reported under the name of the first,
even if only a later one is administrative.
-/

namespace ContractAudit

/-! ## Characters -/

namespace Text

/-- Ranges that lie apart have no code point in common. -/
theorem inRanges_eq_false_of_apart {ranges others : List (Nat × Nat)}
    (apart : (ranges.all fun range ↦ others.all fun other ↦ range.2 < other.1 || other.2 < range.1) = true) {code : Nat}
    (h : inRanges ranges code = true) : inRanges others code = false := by
  obtain ⟨range, hrange, hlow, hhigh⟩ := inRanges_eq_true_iff.mp h
  rw [Bool.eq_false_iff, Ne, inRanges_eq_true_iff]
  rintro ⟨other, hother, hlow', hhigh'⟩
  have hapart := List.all_eq_true.mp (List.all_eq_true.mp apart range hrange) other hother
  rw [Bool.or_eq_true, decide_eq_true_eq, decide_eq_true_eq] at hapart
  omega

theorem isBlank_eq_false_of_isWordCharacter {c : Char} (h : isWordCharacter c = true) : isBlank c = false := by
  rw [isWordCharacter] at h
  split at h
  · next hascii =>
    have hall : ((List.range 128).all fun code ↦
        !((Char.ofNat code).isAlphanum || Char.ofNat code == '_') || !inRanges blankRanges code) = true := by
      decide +kernel
    have hcode := List.all_eq_true.mp hall c.toNat (List.mem_range.mpr hascii)
    rwa [Char.ofNat_toNat, h, Bool.not_true, Bool.false_or, Bool.not_eq_true'] at hcode
  · exact inRanges_eq_false_of_apart (by decide +kernel) h

theorem isWordCharacter_of_isAlpha {c : Char} (h : c.isAlpha = true) : isWordCharacter c = true := by
  have hbound {last : Char} (hle : c.val ≤ last.val) (hlast : last.toNat < 128) : c.toNat < 128 :=
    Nat.lt_of_le_of_lt (UInt32.le_iff_toNat_le.mp hle) hlast
  have hascii : c.toNat < 128 := by
    rcases Bool.or_eq_true_iff.mp h with hupper | hlower
    · exact hbound (of_decide_eq_true hupper).2 (by decide)
    · exact hbound (of_decide_eq_true (Bool.and_eq_true_iff.mp hlower).2) (by decide)
  rw [isWordCharacter, if_pos hascii]
  exact Bool.or_eq_true_iff.mpr (Or.inl (Bool.or_eq_true_iff.mpr (Or.inl h)))

theorem isAlpha_of_toLower_eq {letter c : Char} (hletter : letter.isLower = true) (h : c.toLower = letter.toLower) :
    c.isAlpha = true := by
  have hkept {d : Char} (hd : d.isUpper = false) : d.toLower = d := dif_neg (of_decide_eq_false hd)
  have hnot : letter.isUpper = false := by
    have hlow : 'a'.val ≤ letter.val := of_decide_eq_true (Bool.and_eq_true_iff.mp hletter).1
    refine decide_eq_false fun hupper ↦ ?_
    exact absurd (UInt32.le_trans hlow hupper.2) (by decide)
  refine Bool.or_eq_true_iff.mpr ?_
  cases hupper : c.isUpper with
  | true => exact Or.inl rfl
  | false =>
    rw [hkept hupper, hkept hnot] at h
    rw [h]
    exact Or.inr hletter

end Text

open Text

/-! ## Words in any case -/

namespace Pattern

def Spells (word : String) (taken : List Char) : Prop :=
  List.Forall₂ (fun letter c ↦ sameLetter letter c = true) word.toList taken

theorem spells_self (word : String) : Spells word word.toList := by
  have hsame (letter : Char) : sameLetter letter letter = true := by simp [sameLetter]
  exact List.forall₂_same.mpr fun letter _ ↦ hsame letter

/-- A letter in either case is a word character, also where the other case lies outside ASCII. -/
theorem isWordCharacter_of_sameLetter {letter c : Char} (hletter : letter.isLower = true)
    (h : sameLetter letter c = true) : isWordCharacter c = true := by
  have hbeyond {code : Nat} (hcode : c.toNat = code)
      (hrange : ¬ code < 128 ∧ inRanges wordRanges code = true) : isWordCharacter c = true := by
    rw [isWordCharacter, hcode, if_neg hrange.1]
    exact hrange.2
  simp only [sameLetter, Bool.or_eq_true, Bool.and_eq_true, beq_iff_eq] at h
  rcases h with ((hlower | ⟨-, hi | hi⟩) | ⟨-, hs⟩) | ⟨-, hk⟩
  · exact isWordCharacter_of_isAlpha (isAlpha_of_toLower_eq hletter hlower)
  · exact hbeyond hi (by decide +kernel)
  · exact hbeyond hi (by decide +kernel)
  · exact hbeyond hs (by decide +kernel)
  · exact hbeyond hk (by decide +kernel)

theorem Spells.isWordCharacter {word : String} {taken : List Char} (letters : word.toList.all Char.isLower = true)
    (h : Spells word taken) : ∀ c ∈ taken, isWordCharacter c = true := by
  rw [Spells] at h
  generalize word.toList = spelled at letters h
  induction h with
  | nil => exact List.forall_mem_nil _
  | cons hc _ ih =>
    obtain ⟨hletter, hletters⟩ := Bool.and_eq_true_iff.mp letters
    exact List.forall_mem_cons.mpr ⟨isWordCharacter_of_sameLetter hletter hc, ih hletters⟩

variable {before : Option Char} {taken rest : List Char}

/-- A word in any case takes exactly its spellings. -/
theorem takes_anyCase_iff {word : String} : (anyCase word).Takes before taken rest ↔ Spells word taken := by
  rw [anyCase, Spells]
  induction word.toList generalizing before taken with
  | nil => exact List.forall₂_nil_left_iff.symm
  | cons letter letters ih =>
    rw [List.forall₂_cons_left_iff]
    constructor
    · rintro ⟨left, right, rfl, ⟨c, rfl, hc⟩, hright⟩
      exact ⟨c, right, hc, ih.mp hright, rfl⟩
    · rintro ⟨c, right, hc, hright, rfl⟩
      exact ⟨[c], right, rfl, ⟨c, rfl, hc⟩, ih.mpr hright⟩

/-- Words of small letters, in any case, consist of word characters. -/
theorem isWordCharacter_of_takes_wordsAnyCase {words : List String}
    (small : (words.all fun word ↦ !word.toList.isEmpty && word.toList.all Char.isLower) = true)
    (h : (wordsAnyCase words).Takes before taken rest) : taken ≠ [] ∧ ∀ c ∈ taken, isWordCharacter c = true := by
  obtain ⟨pattern, hpattern, htakes⟩ := takes_choice_iff.mp h
  obtain ⟨word, hword, rfl⟩ := List.mem_map.mp hpattern
  have hspells := takes_anyCase_iff.mp htakes
  obtain ⟨hne, hletters⟩ := Bool.and_eq_true_iff.mp (List.all_eq_true.mp small word hword)
  refine ⟨?_, hspells.isWordCharacter hletters⟩
  rintro rfl
  rw [List.forall₂_nil_right_iff.mp hspells] at hne
  cases hne

theorem takes_append_assoc {first second third : Pattern} :
    (first ++ second ++ third).Takes before taken rest ↔ (first ++ (second ++ third)).Takes before taken rest := by
  constructor
  · rintro ⟨left, right, rfl, ⟨left, middle, rfl, hfirst, hsecond⟩, hthird⟩
    refine ⟨left, middle ++ right, List.append_assoc _ _ _, ?_, middle, right, rfl, hsecond, ?_⟩
    · rwa [List.append_assoc]
    · rwa [← lastOr_append]
  · rintro ⟨left, right, rfl, hfirst, middle, right, rfl, hsecond, hthird⟩
    refine ⟨left ++ middle, right, (List.append_assoc _ _ _).symm, ⟨left, middle, rfl, ?_, hsecond⟩, ?_⟩
    · rwa [← List.append_assoc]
    · rwa [lastOr_append]

theorem occursIn_append_assoc (first second third : Pattern) (text : List Char) :
    (first ++ second ++ third).occursIn text = (first ++ (second ++ third)).occursIn text := by
  rw [Bool.eq_iff_iff, occursIn_iff, occursIn_iff]
  simp only [takes_append_assoc]

end Pattern

open Pattern

namespace Rule.AccessControl

/-! ## Declarations -/

/-- The text begins with the declaration of a function: the keyword in any case, blanks, and the name up to the end of
the word. -/
def Declares (text name : List Char) : Prop :=
  ∃ keyword blanks rest, text = keyword ++ (blanks ++ (name ++ rest)) ∧ Spells "function" keyword ∧
    (blanks ≠ [] ∧ ∀ c ∈ blanks, isBlank c = true) ∧ (name ≠ [] ∧ ∀ c ∈ name, isWordCharacter c = true) ∧
    ∀ c ∈ rest.head?, isWordCharacter c = false

/-- The keyword has eight letters, and the blanks and the name behind it are runs of their classes. -/
theorem Declares.eq_takeWhile {text name : List Char} (h : Declares text name) :
    name = ((text.drop 8).dropWhile isBlank).takeWhile isWordCharacter := by
  obtain ⟨keyword, blanks, rest, rfl, hkeyword, ⟨-, hblanks⟩, ⟨hne, hname⟩, hrest⟩ := h
  have hlength : keyword.length = 8 := hkeyword.length_eq.symm
  have hstop : ∀ c ∈ (name ++ rest).head?, isBlank c = false := by
    intro c hc
    rw [List.head?_append_of_ne_nil _ hne] at hc
    exact isBlank_eq_false_of_isWordCharacter (hname c (List.mem_of_head? hc))
  rw [← hlength, List.drop_left, (takeWhile_append_of_stop hblanks hstop).2, (takeWhile_append_of_stop hname hrest).1]

/-- A declaration has one name. -/
theorem Declares.name_eq {text name other : List Char} (h : Declares text name) (h' : Declares text other) :
    name = other :=
  h.eq_takeWhile.trans h'.eq_takeWhile.symm

theorem isSome_matchAt?_functionName {text name : List Char} (h : Declares text name) (before : Option Char) :
    (functionName.matchAt? before text).isSome = true := by
  obtain ⟨keyword, blanks, rest, rfl, hkeyword, hblanks, hname, -⟩ := h
  refine isSome_matchAt?_iff.mpr ⟨keyword ++ blanks ++ name, rest, by simp only [List.append_assoc], ?_⟩
  refine ⟨keyword ++ blanks, name, rfl, ⟨keyword, blanks, rfl, ?_, ?_⟩, ?_⟩
  · exact takes_anyCase_iff.mpr hkeyword
  · exact takes_some1_iff.mpr hblanks
  · exact takes_some1_iff.mpr hname

/-- Behind the keyword and blanks, the run of word characters is the name. -/
theorem declares_takeWhile {keyword blanks text : List Char} (hkeyword : Spells "function" keyword)
    (hblanks : blanks ≠ [] ∧ ∀ c ∈ blanks, isBlank c = true) (hne : text.takeWhile isWordCharacter ≠ []) :
    Declares (keyword ++ (blanks ++ text)) (text.takeWhile isWordCharacter) :=
  ⟨keyword, blanks, text.dropWhile isWordCharacter, by rw [List.takeWhile_append_dropWhile], hkeyword, hblanks,
    ⟨hne, fun _ hc ↦ List.mem_takeWhile_imp hc⟩, head?_dropWhile_stop⟩

/-- A match of the pattern for names is a declaration of the name that it keeps. -/
theorem declares_of_matchAt?_functionName {before : Option Char} {text : List Char} {found : Match}
    (h : functionName.matchAt? before text = some found) :
    ∃ name, found.group? 1 = some name ∧ Declares text name := by
  obtain ⟨_, rest, rfl, ⟨keyword, blanks, rfl, hkeyword, hblanks⟩, hne, hgroup⟩ := group?_of_matchAt?_capture_some1 h
  refine ⟨_, hgroup, ?_⟩
  rw [List.append_assoc]
  exact declares_takeWhile (takes_anyCase_iff.mp hkeyword) (takes_some1_iff.mp hblanks) hne

/-- A declaration on a line is found, or one before it. -/
theorem exists_search?_functionName {line : Line} {start : Nat} {name : List Char}
    (h : Declares (line.drop start) name) : ∃ found, functionName.search? line = some found := by
  have hsome := isSome_matchAt?_functionName h (lastOr none (line.take start))
  exact Option.isSome_iff_exists.mp
    (isSome_searchFrom?_iff.mpr ⟨_, _, (List.take_append_drop start line).symm, hsome⟩)

/-- The name on a line is that of the first declaration. -/
theorem declares_nameOn {line : Line} {found : Match} (h : functionName.search? line = some found) :
    ∃ start, Declares (line.drop start) (nameOn line).toList ∧
      ∀ start' other, Declares (line.drop start') other → start ≤ start' := by
  obtain ⟨passed, hline, hmatch, hfirst⟩ := exists_of_searchFrom?_eq_some h
  obtain ⟨name, hname, hdeclares⟩ := declares_of_matchAt?_functionName hmatch
  refine ⟨passed.length, ?_, ?_⟩
  · have hnameOn : (nameOn line).toList = name := by
      rw [nameOn, h, Option.map_some, Option.getD_some, Match.group_eq hname, String.toList_ofList]
    have hdrop : line.drop passed.length = found.start := by
      rw [hline, List.drop_left]
    rwa [hnameOn, hdrop]
  · intro start' other hother
    by_contra hlt
    have hlength : passed.length ≤ line.length := by
      rw [hline, List.length_append]
      exact Nat.le_add_right _ _
    have htake : (line.take start').length < passed.length := by
      rw [List.length_take]
      omega
    have hnone := hfirst _ _ (List.take_append_drop start' line).symm htake
    have hsome := isSome_matchAt?_functionName hother (lastOr none (line.take start'))
    rw [hnone] at hsome
    cases hsome

/-! ## Administrative functions -/

/-- A pattern that takes the keyword, blanks and a part of a name takes them in a declaration, and takes them as well
where nothing but the keyword and the name is written. -/
theorem exists_declares_of_occursIn {tail : Pattern} (ignores : tail.ignoresSurroundings = true)
    (word : ∀ {before taken rest}, tail.Takes before taken rest → taken ≠ [] ∧ ∀ c ∈ taken, isWordCharacter c = true)
    {line : Line} (h : (anyCase "function" ++ gap ++ tail).occursIn line = true) :
    ∃ start name, Declares (line.drop start) name ∧
      (anyCase "function" ++ gap ++ tail).occursIn ("function ".toList ++ name) = true := by
  obtain ⟨passed, _, rest, rfl, _, part, rfl, ⟨keyword, blanks, rfl, hkeyword, hblanks⟩, hpart⟩ := occursIn_iff.mp h
  obtain ⟨hne, hinside⟩ := word hpart
  have hname : (part ++ rest).takeWhile isWordCharacter = part ++ rest.takeWhile isWordCharacter :=
    List.takeWhile_append_of_pos hinside
  refine ⟨passed.length, part ++ rest.takeWhile isWordCharacter, ?_, occursIn_iff.mpr ?_⟩
  · rw [List.drop_left, List.append_assoc, List.append_assoc, ← hname]
    apply declares_takeWhile (takes_anyCase_iff.mp hkeyword) (takes_some1_iff.mp hblanks)
    rw [hname]
    exact List.append_ne_nil_of_left_ne_nil hne _
  · refine ⟨[], "function ".toList ++ part, rest.takeWhile isWordCharacter, (List.append_assoc _ _ _).symm,
      "function ".toList, part, rfl, ⟨"function".toList, [' '], rfl, ?_, ?_⟩, hpart.moved ignores _ _⟩
    · exact takes_anyCase_iff.mpr (spells_self "function")
    · exact takes_some1_iff.mpr ⟨List.cons_ne_nil _ _, List.forall_mem_singleton.mpr rfl⟩

/-- The administrative patterns take the keyword, blanks and the beginning of certain names. -/
theorem exists_tail_of_mem_adminFunctions {pattern : Pattern} (h : pattern ∈ adminFunctions) :
    ∃ tail : Pattern, tail.ignoresSurroundings = true ∧
      (∀ {before taken rest}, tail.Takes before taken rest → taken ≠ [] ∧ ∀ c ∈ taken, isWordCharacter c = true) ∧
      ∀ text, pattern.occursIn text = (anyCase "function" ++ gap ++ tail).occursIn text := by
  rcases List.mem_pair.mp h with rfl | rfl
  · refine ⟨wordsAnyCase ["set", "update", "change"] ++ word, by decide, ?_, occursIn_append_assoc _ _ _⟩
    rintro _ _ _ ⟨left, right, rfl, hleft, hright⟩
    obtain ⟨hne, hinside⟩ := isWordCharacter_of_takes_wordsAnyCase (by decide) hleft
    exact ⟨List.append_ne_nil_of_left_ne_nil hne _,
      List.forall_mem_append.mpr ⟨hinside, (takes_some1_iff.mp hright).2⟩⟩
  · exact ⟨wordsAnyCase _, by decide, isWordCharacter_of_takes_wordsAnyCase (by decide), fun _ ↦ rfl⟩

/-- An administrative function on a line is declared there, and its declaration alone is administrative as well. -/
theorem exists_declares_of_isAdminFunction {line : Line} (h : isAdminFunction line = true) :
    ∃ start name, Declares (line.drop start) name ∧ isAdminFunction ("function ".toList ++ name) = true := by
  obtain ⟨pattern, hpattern, hoccurs⟩ := List.any_eq_true.mp h
  obtain ⟨tail, hignores, hword, htail⟩ := exists_tail_of_mem_adminFunctions hpattern
  rw [htail] at hoccurs
  obtain ⟨start, name, hdeclares, halone⟩ := exists_declares_of_occursIn hignores hword hoccurs
  rw [← htail] at halone
  exact ⟨start, name, hdeclares, List.any_eq_true.mpr ⟨pattern, hpattern, halone⟩⟩

/-- A line with an administrative function has a name to report, that of the first function that is declared on it.
This function or one that is declared behind it is administrative. -/
theorem named_of_isAdminFunction {line : Line} (h : isAdminFunction line = true) :
    ∃ start, Declares (line.drop start) (nameOn line).toList ∧
      (∀ start' other, Declares (line.drop start') other → start ≤ start') ∧
      (isAdminFunction ("function " ++ nameOn line).toList = true ∨
        ∃ start' other, start < start' ∧ Declares (line.drop start') other ∧
          isAdminFunction ("function ".toList ++ other) = true) := by
  obtain ⟨start', other, hother, hadmin⟩ := exists_declares_of_isAdminFunction h
  obtain ⟨found, hfound⟩ := exists_search?_functionName hother
  obtain ⟨start, hdeclares, hfirst⟩ := declares_nameOn hfound
  refine ⟨start, hdeclares, hfirst, ?_⟩
  rcases (hfirst start' other hother).eq_or_lt with rfl | hlt
  · rw [String.toList_append, hdeclares.name_eq hother]
    exact Or.inl hadmin
  · exact Or.inr ⟨start', other, hlt, hother, hadmin⟩

/-- Every finding at a line names the first function that is declared on the line, in its description and in its
location, whatever the look ahead. This function or one that is declared behind it is administrative. So the function
that is named is the administrative one if the line declares no other. -/
theorem first_declaration_named (source : String) (lookahead : Int) :
    ∃ outcome, (analyzer (.int lookahead)).check (.str source) = .ok outcome ∧
      ∀ finding ∈ outcome.vulnerabilities, finding.line ≠ none →
        ∃ index line name start, (splitLines (Comment.strip source.toList))[index]? = some line ∧
          finding.line = some (.ofIndex index) ∧
          finding.description = .str ("Administrative function '" ++ name ++ "' lacks access control") ∧
          finding.location = .str ("function " ++ name) ∧
          Declares (line.drop start) name.toList ∧
          (∀ start' other, Declares (line.drop start') other → start ≤ start') ∧
          (isAdminFunction ("function " ++ name).toList = true ∨
            ∃ start' other, start < start' ∧ Declares (line.drop start') other ∧
              isAdminFunction ("function ".toList ++ other) = true) := by
  refine ⟨_, check_int lookahead source, fun finding hfinding hplaced ↦ ?_⟩
  rcases List.mem_append.mp hfinding with hmem | hoverall
  · obtain ⟨index, line, hline, hadmin, -, rfl⟩ := (mem_atLines lookahead).mp hmem
    obtain ⟨start, hnamed⟩ := named_of_isAdminFunction hadmin
    exact ⟨index, line, nameOn line, start, hline, rfl, rfl, rfl, hnamed⟩
  · obtain ⟨advice, -, rfl⟩ := List.mem_map.mp hoverall
    exact absurd rfl hplaced

def getterThenSetter : String := "function get() public \x7b\x7d function setFee(uint f) public \x7b\x7d"

theorem getter_mem_atLines :
    (unguardedFunction "get").atLine (.ofSource getterThenSetter.toList) 0 ∈
      atLines 10 (.ofSource getterThenSetter.toList) := by
  have hname : nameOn getterThenSetter.toList = "get" := by decide +kernel
  refine (mem_atLines 10).mpr ⟨0, getterThenSetter.toList, ?_, ?_, ?_, by rw [hname]⟩
  · decide +kernel
  · decide +kernel
  · decide +kernel

/-- The line is reported under the name of the first function, and there is an administrative one behind it. -/
theorem first_declaration_named_getterThenSetter :
    ∃ outcome, (analyzer (.int 10)).check (.str getterThenSetter) = .ok outcome ∧
      ∃ finding ∈ outcome.vulnerabilities, finding.line ≠ none ∧ finding.location = .str "function get" ∧
        ∃ line start start' other, line ∈ splitLines (Comment.strip getterThenSetter.toList) ∧
          Declares (line.drop start) "get".toList ∧ start < start' ∧ Declares (line.drop start') other ∧
          isAdminFunction ("function ".toList ++ other) = true := by
  obtain ⟨outcome, hcheck, hnamed⟩ := first_declaration_named getterThenSetter 10
  have hmem : (unguardedFunction "get").atLine (.ofSource getterThenSetter.toList) 0 ∈ outcome.vulnerabilities := by
    rw [check_int] at hcheck
    cases hcheck
    exact List.mem_append_left _ getter_mem_atLines
  refine ⟨outcome, hcheck, _, hmem, Option.some_ne_none _, rfl, ?_⟩
  obtain ⟨index, line, name, start, hline, -, -, hlocation, hdeclares, -, hadmin⟩ :=
    hnamed _ hmem (Option.some_ne_none _)
  obtain rfl : "get" = name := String.append_right_inj _ |>.mp (Value.str.inj hlocation)
  obtain ⟨start', other, hlt, hother, hadmin⟩ := hadmin.resolve_left (by decide +kernel)
  exact ⟨line, start, start', other, List.mem_of_getElem? hline, hdeclares, hlt, hother, hadmin⟩

/-- A line can be reported under the name of a function that is not administrative. -/
theorem getter_named_for_setter :
    ∃ outcome, (analyzer defaultLookahead).check (.str getterThenSetter) = .ok outcome ∧
      ∃ finding ∈ outcome.vulnerabilities, finding.line ≠ none ∧ finding.severity = .medium ∧
        finding.description = .str "Administrative function 'get' lacks access control" ∧
        finding.location = .str "function get" ∧ isAdminFunction "function get".toList = false :=
  ⟨_, check_int 10 getterThenSetter, _, List.mem_append_left _ getter_mem_atLines, Option.some_ne_none _, rfl, rfl, rfl,
    by decide +kernel⟩

end Rule.AccessControl

end ContractAudit
