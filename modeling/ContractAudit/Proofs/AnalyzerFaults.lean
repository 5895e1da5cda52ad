import ContractAudit.Proofs.ExposedCalls
import ContractAudit.Proofs.FunctionNames
import ContractAudit.Proofs.GuardLocality
import ContractAudit.Proofs.Positions

/-!
# Faults of the built-in analyzers

With their default windows, the built-in analyzers judge every text. The one exception is a version number with too many
digits, which stops the rule for overflows. Nothing else can go wrong: the lines that the rules look up by their index
exist, the names that they take from a match were captured, and the names from which they build patterns are plain
words, without characters that mean something in a pattern.
-/

namespace ContractAudit

open Text Pattern

/-! ## Version numbers -/

namespace Rule.Overflow

/-- The first version pragma has a part of more than 4300 digits. -/
def LongVersion (code : List Char) : Prop :=
  ∃ found, versionPragma.search? code = some found ∧ ∃ label ∈ [1, 2, 3], 4300 < (found.group label).length

/-- Whether a version is too long is decided by running the pattern. -/
theorem longVersion_iff {code : List Char} :
    LongVersion code ↔ ((versionPragma.search? code).any fun found ↦
      [1, 2, 3].any fun label ↦ decide (4300 < (found.group label).length)) = true := by
  simp only [LongVersion, Option.any_eq_true, List.any_eq_true, decide_eq_true_eq]

instance : DecidablePred LongVersion := fun _ ↦ decidable_of_iff _ longVersion_iff.symm

theorem versionPart_of_long {digits : List Char} (h : 4300 < digits.length) :
    versionPart digits = .error (.longNumeral digits.length) := if_pos h

theorem versionPart_of_short {digits : List Char} (h : digits.length ≤ 4300) :
    versionPart digits = .ok (numeral digits) := if_neg (Nat.not_lt.mpr h)

/-- A version is read, or its first part that is too long is reported. -/
theorem version?_cases (code : List Char) :
    ¬ LongVersion code ∧ Returns (version? code) ∨
      LongVersion code ∧ ∃ digits, version? code = .error (.longNumeral digits) := by
  cases hsearch : versionPragma.search? code with
  | none =>
    refine Or.inl ⟨?_, none, by rw [version?, hsearch]⟩
    rintro ⟨found, hfound, -⟩
    rw [hsearch] at hfound
    cases hfound
  | some found =>
    have hlong {label : Nat} (hlabel : label ∈ [1, 2, 3]) (h : 4300 < (found.group label).length) : LongVersion code :=
      ⟨found, hsearch, label, hlabel, h⟩
    simp only [version?, hsearch]
    rcases Nat.lt_or_ge 4300 (found.group 1).length with h₁ | h₁
    · exact Or.inr ⟨hlong (by decide) h₁, _, by rw [versionPart_of_long h₁]; rfl⟩
    rcases Nat.lt_or_ge 4300 (found.group 2).length with h₂ | h₂
    · exact Or.inr ⟨hlong (by decide) h₂, _, by rw [versionPart_of_short h₁, versionPart_of_long h₂]; rfl⟩
    rcases Nat.lt_or_ge 4300 (found.group 3).length with h₃ | h₃
    · exact Or.inr ⟨hlong (by decide) h₃, _,
        by rw [versionPart_of_short h₁, versionPart_of_short h₂, versionPart_of_long h₃]; rfl⟩
    · refine Or.inl ⟨?_, _, by rw [versionPart_of_short h₁, versionPart_of_short h₂, versionPart_of_short h₃]; rfl⟩
      rintro ⟨other, hother, label, hlabel, h⟩
      cases hsearch.symm.trans hother
      simp only [List.mem_cons, List.not_mem_nil, or_false] at hlabel
      rcases hlabel with rfl | rfl | rfl <;> omega

/-- The rule is stopped by nothing but the version. -/
theorem judge_cases (sheet : Sheet) :
    ¬ LongVersion sheet.text ∧ Returns (judge sheet) ∨
      LongVersion sheet.text ∧ ∃ digits, judge sheet = .error (.longNumeral digits) := by
  rcases version?_cases sheet.text with ⟨hshort, hreturns⟩ | ⟨hlong, digits, herror⟩
  · exact Or.inl ⟨hshort, (returns_bind_of_forall fun _ ↦ returns_pure _).mpr hreturns⟩
  · refine Or.inr ⟨hlong, digits, ?_⟩
    rw [judge, herror]
    rfl

end Rule.Overflow

/-! ## Lines -/

theorem Rule.Gas.length_depths (code : List Line) : (depths code).length = code.length := by
  have hlength {step : Int × List Int → Line → Int × List Int}
      (hstep : ∀ state line, (step state line).2.length = state.2.length + 1) (state : Int × List Int) :
      (code.foldl step state).2.length = state.2.length + code.length := by
    induction code generalizing state with
    | nil => rfl
    | cons line code ih =>
      rw [List.foldl_cons, ih, hstep, List.length_cons]
      omega
  rw [depths, List.length_reverse, hlength fun _ _ ↦ rfl, List.length_nil, Nat.zero_add]

namespace Scope

variable {lines : List Line} {index : Nat}

theorem blockEnd_lt (valid : index < lines.length) : blockEnd lines index < lines.length := by
  simp only [blockEnd, clampIndex_of_lt valid]
  cases hclosing : closingLine? 0 false index (lines.drop index) with
  | none =>
    rw [Option.getD_none]
    omega
  | some found =>
    obtain ⟨count, hcount, rfl, -⟩ := closingLine?_eq_some_iff.mp hclosing
    rw [List.length_drop] at hcount
    rw [Option.getD_some]
    omega

/-- A block starts at or before the line that it encloses. -/
theorem enclosingBlock?_le (valid : index < lines.length) {column : Option Int} {start : Nat}
    (h : enclosingBlock? lines index column = some start) : start ≤ index := by
  rw [← map_fst_enclosingBrace?] at h
  obtain ⟨⟨_, brace⟩, hbrace, rfl⟩ := Option.map_eq_some_iff.mp h
  obtain ⟨earlier, left, right, later, htext, rfl, -⟩ := exists_of_enclosingBrace?_eq_some hbrace
  have hlength := length_textBefore valid column
  rw [clampIndex_of_lt valid] at htext
  rw [htext, List.length_append, List.length_cons] at hlength
  show earlier.length ≤ index
  omega

end Scope

/-! ## Names -/

def reserved : List Char := "\\.^$*+?|()[]\x7b\x7d".toList

/-- A word that stands for itself in a written pattern. -/
def PlainWord (name : List Char) : Prop := name ≠ [] ∧ ∀ c ∈ name, isWordCharacter c = true ∧ c ∉ reserved

theorem notMem_reserved {c : Char} (h : isWordCharacter c = true) : c ∉ reserved := by
  have hreserved : reserved.all (!isWordCharacter ·) = true := by decide
  intro hc
  have hnot := List.all_eq_true.mp hreserved c hc
  rw [h] at hnot
  cases hnot

/-- A pattern that always keeps a word keeps a plain word. -/
theorem exists_plainWord {pattern : Pattern} (keeps : pattern.keeps 1 = true)
    (bodies : pattern.captureBodies = [(1, word)]) {before : Option Char} {text : List Char} {found : Match}
    (h : pattern.matchAt? before text = some found) : ∃ name, found.group? 1 = some name ∧ PlainWord name := by
  have hbodies : ∀ body, (1, body) ∈ pattern.captureBodies → body = some1 isWordCharacter := by
    intro body hbody
    rw [bodies, List.mem_singleton] at hbody
    exact congrArg Prod.snd hbody
  obtain ⟨name, hname, hne, hinside⟩ := exists_group?_of_some1 keeps hbodies h
  exact ⟨name, hname, hne, fun c hc ↦ ⟨hinside c hc, notMem_reserved (hinside c hc)⟩⟩

/-- Every part of a version is a numeral, and only the last one may be missing. -/
theorem Rule.Overflow.exists_digits {code : List Char} {found : Match} (h : versionPragma.search? code = some found) :
    (∀ label ∈ [1, 2], ∃ digits, found.group? label = some digits) ∧
      ∀ label digits, found.group? label = some digits → digits ≠ [] ∧ ∀ c ∈ digits, isDecimalDigit c = true := by
  obtain ⟨passed, -, hmatch, -⟩ := exists_of_searchFrom?_eq_some h
  have hbodies : versionPragma.captureBodies =
      [(1, some1 isDecimalDigit), (2, some1 isDecimalDigit), (3, some1 isDecimalDigit)] := rfl
  constructor
  · intro label hlabel
    apply exists_group?_of_keeps _ hmatch
    rcases List.mem_pair.mp hlabel with rfl | rfl <;> decide
  · intro label digits hdigits
    obtain ⟨body, before, rest, hbody, htakes⟩ := exists_takes_of_group? hmatch hdigits
    have hbody : body = some1 isDecimalDigit := by
      simp only [hbodies, List.mem_cons, Prod.mk.injEq, List.not_mem_nil, or_false] at hbody
      rcases hbody with ⟨-, h⟩ | ⟨-, h⟩ | ⟨-, h⟩ <;> exact h
    rw [hbody] at htakes
    exact takes_some1_iff.mp htakes

/-! ## Everything that is looked up -/

open Rule in
/-- Whatever the rules look up is there, so that nothing stands in for it. -/
structure NothingMissing (sheet : Sheet) : Prop where
  line : ∀ index < sheet.code.length, ∃ line, sheet.raw[index]? = some line
  depth : ∀ index < sheet.code.length, ∃ depth, (Gas.depths sheet.code)[index]? = some depth
  laterWrite : ∀ index < sheet.code.length, ∃ flag, (Reentrancy.writesAfter sheet.code).1[index]? = some flag
  blockEnd : ∀ index < sheet.code.length,
    Scope.blockEnd sheet.raw index < sheet.raw.length ∧ Scope.blockEnd sheet.code index < sheet.code.length
  header : ∀ index < sheet.code.length, ∀ header, Scope.enclosingFunction? sheet.code index = some header →
    header ≤ index
  brace : ∀ index < sheet.code.length, ∀ column start, Scope.enclosingBlock? sheet.code index column = some start →
    start ≤ index
  /-- A line that is reported for access control has a name. -/
  functionName : ∀ line ∈ sheet.code, AccessControl.isAdminFunction line = true →
    ∃ found name, AccessControl.functionName.search? line = some found ∧ found.group? 1 = some name
  /-- The names that the rule for gas takes from a line are plain words. -/
  declaredName : ∀ line ∈ sheet.code,
    ∀ pattern ∈ [Gas.stateVariable, Gas.localVariable, Gas.publicVariable, Gas.publicFunction],
      ∀ found, pattern.matchStart? line = some found ∨ pattern.search? line = some found →
        ∃ name, found.group? 1 = some name ∧ PlainWord name
  version : ∀ found, Overflow.versionPragma.search? sheet.text = some found →
    (∀ label ∈ [1, 2], ∃ digits, found.group? label = some digits) ∧
      ∀ label digits, found.group? label = some digits → digits ≠ [] ∧ ∀ c ∈ digits, isDecimalDigit c = true

theorem Sheet.nothingMissing (source : List Char) : NothingMissing (.ofSource source) where
  line index hindex := by
    rw [length_code_ofSource] at hindex
    exact ⟨_, List.getElem?_eq_getElem hindex⟩
  depth index hindex := by
    rw [← Rule.Gas.length_depths] at hindex
    exact ⟨_, List.getElem?_eq_getElem hindex⟩
  laterWrite index hindex := by
    rw [Rule.Reentrancy.getElem?_writesAfter, List.getElem?_eq_getElem hindex]
    exact ⟨_, rfl⟩
  blockEnd index hindex := ⟨Scope.blockEnd_lt (length_code_ofSource source ▸ hindex), Scope.blockEnd_lt hindex⟩
  header index _ header hheader := (Scope.enclosingFunction?_eq_some_iff.mp hheader).1
  brace index hindex column start hstart := Scope.enclosingBlock?_le hindex hstart
  functionName line _ hadmin := by
    obtain ⟨start, name, hdeclares, -⟩ := Rule.AccessControl.exists_declares_of_isAdminFunction hadmin
    obtain ⟨found, hfound⟩ := Rule.AccessControl.exists_search?_functionName hdeclares
    obtain ⟨passed, -, hmatch, -⟩ := exists_of_searchFrom?_eq_some hfound
    obtain ⟨name, hname, -⟩ := Rule.AccessControl.declares_of_matchAt?_functionName hmatch
    exact ⟨found, name, hfound, hname⟩
  declaredName line _ pattern hpattern found hfound := by
    obtain ⟨before, text, hmatch⟩ : ∃ before text, pattern.matchAt? before text = some found := by
      rcases hfound with hstart | hsearch
      · exact ⟨none, line, hstart⟩
      · obtain ⟨passed, -, hmatch, -⟩ := exists_of_searchFrom?_eq_some hsearch
        exact ⟨_, _, hmatch⟩
    simp only [List.mem_cons, List.not_mem_nil, or_false] at hpattern
    rcases hpattern with rfl | rfl | rfl | rfl
    · exact exists_plainWord (by decide) rfl hmatch
    · exact exists_plainWord (by decide) rfl hmatch
    · exact exists_plainWord (by decide) rfl hmatch
    · exact exists_plainWord (by decide) rfl hmatch
  version _ := Rule.Overflow.exists_digits

/-! ## The analyzers -/

namespace BuiltIn

/-- With integers for windows, only the rule for overflows can be stopped. -/
theorem returns_rule {key : BuiltIn} (h : key ≠ overflow) (sheet : Sheet) : Returns (key.rule [] sheet) := by
  cases key with
  | overflow => exact absurd rfl h
  | accessControl => exact Rule.AccessControl.returns_judge _ sheet
  | uncheckedCall => exact Rule.UncheckedCall.returns_judge _ _ sheet
  | _ => exact returns_ok _

/-- A rule comes to a verdict, unless it is the one for overflows and the version is too long; then it fails on the
digits. -/
theorem rule_cases (key : BuiltIn) (sheet : Sheet) :
    ¬ (key = overflow ∧ Rule.Overflow.LongVersion sheet.text) ∧ Returns (key.rule [] sheet) ∨
      (key = overflow ∧ Rule.Overflow.LongVersion sheet.text) ∧
        ∃ digits, key.rule [] sheet = .error (.longNumeral digits) := by
  by_cases hkey : key = overflow
  · subst hkey
    rcases Rule.Overflow.judge_cases sheet with ⟨hshort, hreturns⟩ | ⟨hlong, herror⟩
    · exact Or.inl ⟨fun h ↦ hshort h.2, hreturns⟩
    · exact Or.inr ⟨⟨rfl, hlong⟩, herror⟩
  · exact Or.inl ⟨fun h ↦ hkey h.1, returns_rule hkey sheet⟩

/-- A built-in analyzer checks a source by its rule and puts its name on the verdict. -/
theorem check_default (key : BuiltIn) (source : String) :
    key.default.check (.str source) =
      (key.rule [] (.ofSource source.toList)).map fun verdict ↦
        { analyzer := key.default.name, vulnerabilities := verdict.vulnerabilities, issues := verdict.issues } := by
  cases key <;> rfl

/-- The built-in analyzers judge every text with their default windows, unless the version that the rule for overflows
reads has a part of more than 4300 digits. This is the only fault. Whatever the rules look up on the way is there. -/
theorem stopped_only_by_long_version (source : String) :
    (∀ key : BuiltIn, Returns (key.default.check (.str source)) ↔
      ¬ (key = overflow ∧ Rule.Overflow.LongVersion (Comment.strip source.toList))) ∧
    (∀ (key : BuiltIn) (fault : Fault), key.default.check (.str source) = .error fault → fault.kind = "ValueError") ∧
    NothingMissing (.ofSource source.toList) := by
  have hcases (key : BuiltIn) := key.rule_cases (.ofSource source.toList)
  simp only [Sheet.text_ofSource] at hcases
  refine ⟨fun key ↦ ?_, fun key fault hfault ↦ ?_, Sheet.nothingMissing source.toList⟩
  · rw [check_default, returns_map]
    rcases hcases key with ⟨hshort, hreturns⟩ | ⟨hlong, digits, herror⟩
    · exact iff_of_true hreturns hshort
    · rw [herror]
      exact iff_of_false (not_returns_error _) (not_not_intro hlong)
  · rw [check_default] at hfault
    rcases hcases key with ⟨-, verdict, hverdict⟩ | ⟨-, digits, herror⟩
    · rw [hverdict] at hfault
      cases hfault
    · rw [herror] at hfault
      cases hfault
      rfl

def longPatch (digits : Nat) : String := String.ofList ("pragma solidity 0.8.".toList ++ List.replicate digits '1')

theorem toList_longPatch (digits : Nat) :
    (longPatch digits).toList = "pragma solidity 0.8.".toList ++ List.replicate digits '1' := String.toList_ofList

/-- One digit too many stops the rule that reads the version, and no other. -/
theorem stopped_only_by_long_version_longPatch :
    ¬ Returns (overflow.default.check (.str (longPatch 4301))) ∧
      ∀ key : BuiltIn, key ≠ overflow → Returns (key.default.check (.str (longPatch 4301))) := by
  have hlong : Rule.Overflow.LongVersion (Comment.strip (longPatch 4301).toList) := by
    rw [toList_longPatch]
    decide +kernel
  have hreturns := (stopped_only_by_long_version (longPatch 4301)).1
  exact ⟨fun h ↦ (hreturns overflow).mp h ⟨rfl, hlong⟩, fun key hkey ↦ (hreturns key).mpr fun h ↦ hkey h.1⟩

end BuiltIn

end ContractAudit
