import ContractAudit.Proofs.CodeLines
import ContractAudit.Proofs.GuardLocality
import ContractAudit.Proofs.PatternMatch
import Mathlib.Data.Prod.Lex

/-!
# Verdicts on arithmetic

The rule for overflows asks about the code as a whole which protection it has, and about each line what is computed on
it. A source is judged in one of three ways: the compiler checks its arithmetic, or a library does, or nothing does.
Findings of one way never come with findings of another. What ties the verdict on the source to those on its lines is
that a decrement is arithmetic. Products before quotients are reported in all three ways, and two patterns with
opposite orders decide about them: the last product has to come before the first quotient.
-/

namespace ContractAudit

open Text

/-! ## Signs on a line -/

theorem exists_append_of_getElem? {α : Type} {items : List α} {index : Nat} {item : α} (h : items[index]? = some item) :
    ∃ front back, items = front ++ item :: back ∧ front.length = index := by
  obtain ⟨hlength, rfl⟩ := List.getElem?_eq_some_iff.mp h
  refine ⟨items.take index, items.drop (index + 1), ?_, List.length_take_of_le (Nat.le_of_lt hlength)⟩
  rw [List.getElem_cons_drop, List.take_append_drop]

namespace Pattern

variable {pattern : Pattern} {replacement text : List Char}

/-- Replacing brings in no characters but those of the replacement. -/
theorem mem_replaceFrom {skip : Nat} {before : Option Char} {c : Char}
    (h : c ∈ pattern.replaceFrom replacement skip before text) : c ∈ replacement ∨ c ∈ text := by
  fun_induction replaceFrom pattern replacement skip before text with
  | case1 => exact Or.inr h
  | case2 skip before d rest ih => exact (ih h).imp_right (List.mem_cons_of_mem d)
  | case3 before d rest found hmatch ih =>
    rcases List.mem_append.mp h with hreplacement | hlater
    · exact Or.inl hreplacement
    · exact (ih hlater).imp_right (List.mem_cons_of_mem d)
  | case4 before d rest hmatch ih =>
    rcases List.mem_cons.mp h with rfl | hlater
    · exact Or.inr List.mem_cons_self
    · exact (ih hlater).imp_right (List.mem_cons_of_mem d)

/-- A character, anything, and another character occur on a line exactly when the one stands before the other. -/
theorem occursIn_inOrder_iff {first last : String} {a b : Char} (hfirst : first.toList = [a])
    (hlast : last.toList = [b]) (oneLine : '\n' ∉ text) :
    (lit first ++ anything ++ lit last).occursIn text = true ↔
      ∃ i j : Nat, i < j ∧ text[i]? = some a ∧ text[j]? = some b := by
  rw [occursIn_iff]
  constructor
  · rintro ⟨passed, _, rest, rfl, _, _, rfl, ⟨_, middle, rfl, hleft, -⟩, hright⟩
    rw [takes_foldr_one.mp hleft, takes_foldr_one.mp hright, hfirst, hlast]
    refine ⟨passed.length, passed.length + (middle.length + 1), by omega, ?_, ?_⟩ <;> simp
  · rintro ⟨i, j, hij, hi, hj⟩
    obtain ⟨passed, later, rfl, rfl⟩ := exists_append_of_getElem? hi
    obtain ⟨gap, rfl⟩ : ∃ gap, j = passed.length + (gap + 1) := ⟨j - passed.length - 1, by omega⟩
    rw [List.getElem?_append_right (by omega), Nat.add_sub_cancel_left, List.getElem?_cons_succ] at hj
    obtain ⟨middle, rest, rfl, -⟩ := exists_append_of_getElem? hj
    refine ⟨passed, [a] ++ middle ++ [b], rest, by simp, [a] ++ middle, [b], rfl, ⟨[a], middle, rfl, ?_, ?_⟩, ?_⟩
    · exact takes_foldr_one.mpr hfirst.symm
    · intro c hc
      have hne : c ≠ '\n' := by
        rintro rfl
        exact oneLine (by simp [hc])
      simpa using hne
    · exact takes_foldr_one.mpr hlast.symm

end Pattern

namespace Rule.Overflow

/-- The line has a product and a quotient, and the sign of the last product stands before that of the first quotient. -/
def ProductFirst (text : Line) : Prop :=
  ∃ last first : Nat, last < first ∧
    (text[last]? = some '*' ∧ ∀ place : Nat, text[place]? = some '*' → place ≤ last) ∧
    (text[first]? = some '/' ∧ ∀ place : Nat, text[place]? = some '/' → first ≤ place)

/-- The last product stands before the first quotient exactly if a product comes before a quotient and no quotient
before a product. -/
theorem productFirst_iff {text : Line} :
    ProductFirst text ↔ (∃ i j : Nat, i < j ∧ text[i]? = some '*' ∧ text[j]? = some '/') ∧
      ¬ ∃ i j : Nat, i < j ∧ text[i]? = some '/' ∧ text[j]? = some '*' := by
  constructor
  · rintro ⟨last, first, hlt, ⟨hlast, hnoLater⟩, hfirst, hnoEarlier⟩
    refine ⟨⟨last, first, hlt, hlast, hfirst⟩, ?_⟩
    rintro ⟨i, j, hij, hi, hj⟩
    have hfirstLe := hnoEarlier i hi
    have hleLast := hnoLater j hj
    omega
  · rintro ⟨⟨i, j, -, hi, hj⟩, hnone⟩
    obtain ⟨last, hlast⟩ := Scope.exists_lastIndex? (List.mem_of_getElem? hi) (beq_self_eq_true '*')
    obtain ⟨⟨c, hc, hstar⟩, hnoLater⟩ := Scope.lastIndex?_eq_some_iff.mp hlast
    obtain rfl : '*' = c := beq_iff_eq.mp hstar
    have hslash : ∃ first : Nat, text[first]? = some '/' := ⟨j, hj⟩
    have hfirst := Nat.find_spec hslash
    refine ⟨last, Nat.find hslash, ?_, ⟨hc, fun place hplace ↦ hnoLater place _ hplace rfl⟩, hfirst,
      fun place ↦ Nat.find_min' hslash⟩
    by_contra hle
    have hne : Nat.find hslash ≠ last := by
      intro heq
      rw [heq, hc] at hfirst
      cases hfirst
    exact hnone ⟨Nat.find hslash, last, by omega, hfirst, hc⟩

theorem feed_notMem_mathLine {line : Line} (oneLine : '\n' ∉ line) : '\n' ∉ mathLine line := by
  rw [mathLine]
  split
  · exact List.not_mem_nil
  · intro hfeed
    rcases Pattern.mem_replaceFrom hfeed with hquote | hline
    · revert hquote
      decide
    · exact oneLine hline

/-- The two opposite patterns together say that products come first. -/
theorem multiplies_before_dividing_iff {line : Line} (oneLine : '\n' ∉ line) :
    (multiplyThenDivide.occursIn line && !divideThenMultiply.occursIn line) = true ↔ ProductFirst line := by
  have hproduct : "*".toList = ['*'] := rfl
  have hquotient : "/".toList = ['/'] := rfl
  rw [Bool.and_eq_true, Bool.not_eq_true', ← Bool.not_eq_true, productFirst_iff, multiplyThenDivide, divideThenMultiply,
    Pattern.occursIn_inOrder_iff hproduct hquotient oneLine, Pattern.occursIn_inOrder_iff hquotient hproduct oneLine]

/-- A decrement is arithmetic. -/
theorem arithmetic_of_decrement {line : Line} (h : decrement.occursIn line = true) :
    arithmetic.occursIn line = true := by
  obtain ⟨passed, taken, rest, rfl, htakes⟩ := Pattern.occursIn_iff.mp h
  refine Pattern.occursIn_iff.mpr ⟨passed, taken, rest, rfl, Or.inr (Or.inr (Or.inr ?_))⟩
  rw [Pattern.takes_foldr_one.mp htakes]
  exact ⟨['-'], ['='], rfl, ⟨'-', rfl, rfl⟩, Pattern.takes_foldr_one.mpr rfl⟩

/-! ## What is reported -/

/-- What the rule reports on a sheet with a protection; the label shows the version of the compiler. -/
def findingsUnder (protection : Protection) (label : String) (sheet : Sheet) : List Finding :=
  (if (sheet.code.map mathLine).any arithmetic.occursIn && !protection.any then [(unprotected label).overall] else [])
    ++ sheet.mark (sheet.code.map mathLine) (lineAdvice protection)

theorem findingsUnder_protectionOf (sheet : Sheet) (version : Option Version) :
    findingsUnder (protectionOf sheet version) ((version.map Version.label).getD "unknown") sheet =
      (overallAdvice sheet version).map Advice.overall
        ++ sheet.mark (sheet.code.map mathLine) (lineAdvice (protectionOf sheet version)) := by
  rw [findingsUnder, overallAdvice, apply_ite (List.map Advice.overall)]
  rfl

/-- The rule looks for the version first, and nothing else can stop it. -/
theorem check_eq_ok_iff {source : String} {outcome : Outcome} :
    analyzer.check (.str source) = .ok outcome ↔
      ∃ version, version? (Comment.strip source.toList) = .ok version ∧
        outcome =
          { analyzer := analyzer.name
            vulnerabilities := findingsUnder (protectionOf (.ofSource source.toList) version)
              ((version.map Version.label).getD "unknown") (.ofSource source.toList) } := by
  rw [analyzer, Analyzer.check_ofRule]
  constructor
  · intro h
    cases hjudge : judge (.ofSource source.toList) with
    | error fault =>
      rw [hjudge] at h
      cases h
    | ok verdict =>
      obtain ⟨version, hversion, rfl⟩ := judge_eq_ok_iff.mp hjudge
      rw [hjudge] at h
      rw [Sheet.text_ofSource] at hversion
      cases h
      refine ⟨version, hversion, ?_⟩
      rw [findingsUnder_protectionOf]
      rfl
  · rintro ⟨version, hversion, rfl⟩
    rw [← Sheet.text_ofSource] at hversion
    rw [judge_eq_ok_iff.mpr ⟨version, hversion, rfl⟩, findingsUnder_protectionOf]
    rfl

variable {protection : Protection} {label : String} {sheet : Sheet} {finding : Finding}

theorem mem_lineAdvice {line : Line} {index : Nat} {advice : Advice} :
    advice ∈ lineAdvice protection line index ↔
      (protection.builtIn = true ∧ uncheckedBlock.occursIn line = true) ∧ advice = uncheckedArithmetic ∨
        (multiplyThenDivide.occursIn line && !divideThenMultiply.occursIn line) = true ∧ advice = precisionLoss ∨
        (decrement.occursIn line = true ∧ protection.any = false) ∧ advice = underflow := by
  rw [lineAdvice, List.mem_append, List.mem_append, List.mem_ite_nil_right, List.mem_ite_nil_right,
    List.mem_ite_nil_right, or_assoc]
  simp only [List.mem_singleton, Bool.and_eq_true, Bool.not_eq_true']

/-- The sign of a computation on a line is reported there, and arithmetic anywhere for the source as a whole. -/
theorem mem_findingsUnder :
    finding ∈ findingsUnder protection label sheet ↔
      ((∃ line ∈ sheet.code, arithmetic.occursIn (mathLine line) = true) ∧ protection.any = false) ∧
          finding = (unprotected label).overall ∨
        ∃ index line advice, sheet.code[index]? = some line ∧ advice ∈ lineAdvice protection (mathLine line) index ∧
          finding = advice.atLine sheet index := by
  rw [findingsUnder, List.mem_append, Sheet.mem_mark]
  refine or_congr ?_ ?_
  · simp only [List.mem_ite_nil_right, List.mem_singleton, Bool.and_eq_true, Bool.not_eq_true', List.any_map,
      List.any_eq_true, Function.comp_apply]
  · constructor
    · rintro ⟨entry, hentry, advice, hadvice, rfl⟩
      rw [List.mem_zipIdx_iff_getElem?, List.getElem?_map] at hentry
      obtain ⟨line, hline, hmath⟩ := Option.map_eq_some_iff.mp hentry
      rw [← hmath] at hadvice
      exact ⟨entry.2, line, advice, hline, hadvice, rfl⟩
    · rintro ⟨index, line, advice, hline, hadvice, rfl⟩
      refine ⟨(mathLine line, index), ?_, advice, hadvice, rfl⟩
      rw [List.mem_zipIdx_iff_getElem?, List.getElem?_map, hline, Option.map_some]

/-! ## Kinds of findings -/

def IsPrecisionLoss (finding : Finding) : Prop :=
  finding.category = .str "Precision Loss" ∧ finding.severity = .low ∧ finding.line ≠ none

def IsUncheckedBlock (finding : Finding) : Prop :=
  finding.category = .str "Integer Overflow/Underflow" ∧ finding.severity = .medium ∧
    finding.description = .str "Unchecked block bypasses overflow protection" ∧ finding.line ≠ none

def IsUnderflow (finding : Finding) : Prop :=
  finding.category = .str "Integer Underflow" ∧ finding.severity = .medium ∧ finding.line ≠ none

/-- Unprotected arithmetic somewhere in the contract. -/
def IsContractWide (finding : Finding) : Prop :=
  finding.category = .str "Integer Overflow/Underflow" ∧ finding.severity = .high ∧ finding.line = none

/-- What is reported is of one of four kinds, three of which depend on the protection. -/
theorem kinds_of_mem_findingsUnder (h : finding ∈ findingsUnder protection label sheet) :
    IsPrecisionLoss finding ∨ protection.builtIn = true ∧ IsUncheckedBlock finding ∨
      protection.any = false ∧ (IsUnderflow finding ∨ IsContractWide finding) := by
  rcases mem_findingsUnder.mp h with ⟨⟨-, hany⟩, rfl⟩ | ⟨index, line, advice, hline, hadvice, rfl⟩
  · exact Or.inr (Or.inr ⟨hany, Or.inr ⟨rfl, rfl, rfl⟩⟩)
  · have hplaced : (advice.atLine sheet index).line ≠ none := Option.some_ne_none _
    rcases mem_lineAdvice.mp hadvice with ⟨⟨hbuiltIn, -⟩, rfl⟩ | ⟨-, rfl⟩ | ⟨⟨-, hany⟩, rfl⟩
    · exact Or.inr (Or.inl ⟨hbuiltIn, rfl, rfl, rfl, hplaced⟩)
    · exact Or.inl ⟨rfl, rfl, hplaced⟩
    · exact Or.inr (Or.inr ⟨hany, Or.inl ⟨rfl, rfl, hplaced⟩⟩)

/-- Unchecked blocks are reported under the checks of the compiler only. -/
theorem builtIn_of_isUncheckedBlock (hfinding : finding ∈ findingsUnder protection label sheet)
    (hunchecked : IsUncheckedBlock finding) : protection.builtIn = true := by
  obtain ⟨hcategory, hseverity, -⟩ := hunchecked
  rcases kinds_of_mem_findingsUnder hfinding with ⟨hother, -⟩ | ⟨hbuiltIn, -⟩ | ⟨-, ⟨hother, -⟩ | ⟨-, hother, -⟩⟩
  · exact absurd (Value.str.inj (hcategory.symm.trans hother)) (by decide)
  · exact hbuiltIn
  · exact absurd (Value.str.inj (hcategory.symm.trans hother)) (by decide)
  · exact absurd (hseverity.symm.trans hother) (by decide)

/-- Only the finding for the whole source is severe. -/
theorem filter_high_findingsUnder (protection : Protection) (label : String) (sheet : Sheet) :
    (findingsUnder protection label sheet).filter (fun finding ↦ finding.severity = .high) =
      if (sheet.code.map mathLine).any arithmetic.occursIn && !protection.any then [(unprotected label).overall]
      else [] := by
  rw [findingsUnder, List.filter_append, List.filter_eq_self.mpr, List.filter_eq_nil_iff.mpr, List.append_nil]
  · intro finding hfinding
    obtain ⟨entry, -, advice, hadvice, rfl⟩ := Sheet.mem_mark.mp hfinding
    rcases mem_lineAdvice.mp hadvice with ⟨-, rfl⟩ | ⟨-, rfl⟩ | ⟨-, rfl⟩ <;> exact Bool.false_ne_true
  · intro finding hfinding
    rw [List.mem_singleton.mp (List.mem_ite_nil_right.mp hfinding).2]
    rfl

/-- A decrement that is reported is arithmetic without protection, so the whole source is reported as well. -/
theorem exists_isContractWide_of_isUnderflow (hfinding : finding ∈ findingsUnder protection label sheet)
    (hunderflow : IsUnderflow finding) : ∃ other ∈ findingsUnder protection label sheet, IsContractWide other := by
  rcases mem_findingsUnder.mp hfinding with ⟨-, rfl⟩ | ⟨index, line, advice, hline, hadvice, rfl⟩
  · exact absurd rfl hunderflow.2.2
  · rcases mem_lineAdvice.mp hadvice with ⟨-, rfl⟩ | ⟨-, rfl⟩ | ⟨⟨hdecrement, hany⟩, rfl⟩
    · exact absurd (Value.str.inj hunderflow.1) (by decide)
    · exact absurd (Value.str.inj hunderflow.1) (by decide)
    · have harithmetic : ∃ line ∈ sheet.code, arithmetic.occursIn (mathLine line) = true :=
        ⟨line, List.mem_of_getElem? hline, arithmetic_of_decrement hdecrement⟩
      refine ⟨(unprotected label).overall, ?_, rfl, rfl, rfl⟩
      exact mem_findingsUnder.mpr (Or.inl ⟨⟨harithmetic, hany⟩, rfl⟩)

theorem precisionLoss_reported_iff {source : List Char} {index : Nat} :
    (∃ finding ∈ findingsUnder protection label (.ofSource source),
        finding.category = .str "Precision Loss" ∧ finding.line = some (.ofIndex index)) ↔
      ∃ line, (splitLines (Comment.strip source))[index]? = some line ∧ ProductFirst (mathLine line) := by
  have hproduct {index : Nat} {line : Line} (hline : (Sheet.ofSource source).code[index]? = some line) :=
    multiplies_before_dividing_iff
      (feed_notMem_mathLine (feed_notMem_of_mem_splitLines (List.mem_of_getElem? hline)))
  constructor
  · rintro ⟨finding, hfinding, hcategory, hindex⟩
    rcases mem_findingsUnder.mp hfinding with ⟨-, rfl⟩ | ⟨place, line, advice, hline, hadvice, rfl⟩
    · cases hindex
    · obtain rfl : place = index := Nat.succ.inj (congrArg Subtype.val (Option.some.inj hindex))
      rcases mem_lineAdvice.mp hadvice with ⟨-, rfl⟩ | ⟨hsigns, rfl⟩ | ⟨-, rfl⟩
      · exact absurd (Value.str.inj hcategory) (by decide)
      · exact ⟨line, hline, (hproduct hline).mp hsigns⟩
      · exact absurd (Value.str.inj hcategory) (by decide)
  · rintro ⟨line, hline, hfirst⟩
    have hadvice : precisionLoss ∈ lineAdvice protection (mathLine line) index :=
      mem_lineAdvice.mpr (Or.inr (Or.inl ⟨(hproduct hline).mpr hfirst, rfl⟩))
    exact ⟨_, mem_findingsUnder.mpr (Or.inr ⟨index, line, precisionLoss, hline, hadvice, rfl⟩), rfl, rfl⟩

/-! ## Regimes -/

/-- The ways in which a source is judged, by what protects its arithmetic. -/
inductive Regime where
  /-- The compiler checks arithmetic. -/
  | compiler
  /-- The compiler does not, and a library is used. -/
  | library
  | unprotected
deriving DecidableEq

theorem Version.checksArithmetic_iff (version : Version) :
    version.checksArithmetic = true ↔ toLex (0, 8) ≤ toLex (version.major, version.minor) := by
  rw [Version.checksArithmetic, Bool.or_eq_true, decide_eq_true_eq, decide_eq_true_eq, Prod.Lex.toLex_le_toLex]
  dsimp only
  omega

/-- The first pragma asks for a version of the compiler that checks arithmetic. -/
def ChecksArithmetic (code : List Char) : Prop :=
  ∃ version, version? code = .ok (some version) ∧ toLex (0, 8) ≤ toLex (version.major, version.minor)

namespace Regime

/-- The regime of a code, as far as its version can be read. -/
def Applies (code : List Char) : Regime → Prop
  | compiler => ChecksArithmetic code
  | library => ¬ ChecksArithmetic code ∧ safeMath.occursIn code = true
  | unprotected => ¬ ChecksArithmetic code ∧ safeMath.occursIn code = false

/-- What may be reported. -/
def Allows (findings : List Finding) : Regime → Prop
  | compiler => ∀ finding ∈ findings, IsPrecisionLoss finding ∨ IsUncheckedBlock finding
  | library => ∀ finding ∈ findings, IsPrecisionLoss finding
  | unprotected =>
    (∀ finding ∈ findings, IsPrecisionLoss finding ∨ IsUnderflow finding ∨ IsContractWide finding) ∧
      (∀ finding ∈ findings, ¬ IsUncheckedBlock finding) ∧
      (findings.filter fun finding ↦ finding.severity = .high).length ≤ 1 ∧
      ∀ finding ∈ findings, IsUnderflow finding → ∃ other ∈ findings, IsContractWide other

def ofProtection (protection : Protection) : Regime :=
  if protection.builtIn then compiler else if protection.library then library else unprotected

/-- Nothing is reported that the regime does not allow. -/
theorem allows_findingsUnder (protection : Protection) (label : String) (sheet : Sheet) :
    (ofProtection protection).Allows (findingsUnder protection label sheet) := by
  have hkinds (finding : Finding) (h : finding ∈ findingsUnder protection label sheet) := kinds_of_mem_findingsUnder h
  rw [ofProtection]
  cases hbuiltIn : protection.builtIn with
  | true =>
    intro finding hfinding
    rcases hkinds finding hfinding with hprecision | ⟨-, hunchecked⟩ | ⟨hany, -⟩
    · exact Or.inl hprecision
    · exact Or.inr hunchecked
    · simp [Protection.any, hbuiltIn] at hany
  | false =>
    cases hlibrary : protection.library with
    | true =>
      intro finding hfinding
      rcases hkinds finding hfinding with hprecision | ⟨hchecks, -⟩ | ⟨hany, -⟩
      · exact hprecision
      · simp [hbuiltIn] at hchecks
      · simp [Protection.any, hlibrary] at hany
    | false =>
      have hallowed (finding : Finding) (hfinding : finding ∈ findingsUnder protection label sheet) :
          IsPrecisionLoss finding ∨ IsUnderflow finding ∨ IsContractWide finding := by
        rcases hkinds finding hfinding with hprecision | ⟨hchecks, -⟩ | ⟨-, hother⟩
        · exact Or.inl hprecision
        · simp [hbuiltIn] at hchecks
        · exact Or.inr hother
      refine ⟨hallowed, ?_, ?_, fun finding ↦ exists_isContractWide_of_isUnderflow⟩
      · intro finding hfinding hunchecked
        exact Bool.false_ne_true (hbuiltIn.symm.trans (builtIn_of_isUncheckedBlock hfinding hunchecked))
      · rw [filter_high_findingsUnder]
        split
        · exact Nat.le_refl 1
        · exact Nat.zero_le 1

end Regime

theorem builtIn_protectionOf_iff {sheet : Sheet} {version : Option Version} (h : version? sheet.text = .ok version) :
    (protectionOf sheet version).builtIn = true ↔ ChecksArithmetic sheet.text := by
  rw [protectionOf, Option.any_eq_true, ChecksArithmetic, h]
  constructor
  · rintro ⟨found, rfl, hchecks⟩
    exact ⟨found, rfl, found.checksArithmetic_iff.mp hchecks⟩
  · rintro ⟨found, heq, hlex⟩
    cases heq
    exact ⟨found, rfl, found.checksArithmetic_iff.mpr hlex⟩

/-- The regime that applies is that of the protection with which the rule judges the lines. -/
theorem Regime.applies_iff {sheet : Sheet} {version : Option Version} (h : version? sheet.text = .ok version)
    (regime : Regime) : regime.Applies sheet.text ↔ regime = ofProtection (protectionOf sheet version) := by
  have hlibrary : (protectionOf sheet version).library = safeMath.occursIn sheet.text := rfl
  rw [ofProtection, hlibrary]
  cases regime <;> simp only [Applies, ← builtIn_protectionOf_iff h] <;>
    cases (protectionOf sheet version).builtIn <;> cases safeMath.occursIn sheet.text <;> simp

/-- Whenever the rule judges a source, one regime applies to it, and only findings of this regime are reported: products
before quotients, which every regime allows, and unchecked blocks under the checks of the compiler, or, without
protection, decrements and at most one severe finding for the contract as a whole, which is there if a decrement is. A
product before a quotient is reported at exactly the lines on which, without directives and the contents of strings,
there are both signs and the last product comes before the first quotient. -/
theorem verdicts_never_contradict (source : String) (outcome : Outcome)
    (checked : analyzer.check (.str source) = .ok outcome) :
    (∃! regime : Regime, regime.Applies (Comment.strip source.toList)) ∧
      (∀ regime : Regime, regime.Applies (Comment.strip source.toList) → regime.Allows outcome.vulnerabilities) ∧
      outcome.issues = [] ∧
      ∀ index, (∃ finding ∈ outcome.vulnerabilities,
          finding.category = .str "Precision Loss" ∧ finding.line = some (.ofIndex index)) ↔
        ∃ line, (splitLines (Comment.strip source.toList))[index]? = some line ∧ ProductFirst (mathLine line) := by
  obtain ⟨version, hversion, rfl⟩ := check_eq_ok_iff.mp checked
  rw [← Sheet.text_ofSource] at hversion ⊢
  have happlies := Regime.applies_iff hversion
  refine ⟨⟨_, (happlies _).mpr rfl, fun regime ↦ (happlies regime).mp⟩, ?_, rfl, fun index ↦ ?_⟩
  · intro regime hregime
    rw [(happlies regime).mp hregime]
    exact Regime.allows_findingsUnder _ _ _
  · rw [Sheet.text_ofSource]
    exact precisionLoss_reported_iff

def scaledDecrement : String := "a -= b * c / d;"

/-- All three findings are reported: the source as a whole, the product before the quotient and the decrement. -/
theorem verdicts_never_contradict_scaledDecrement :
    ∃ outcome, analyzer.check (.str scaledDecrement) = .ok outcome ∧
      Regime.unprotected.Applies (Comment.strip scaledDecrement.toList) ∧
      (∃ finding ∈ outcome.vulnerabilities, IsUnderflow finding) ∧
      (∃ finding ∈ outcome.vulnerabilities, IsContractWide finding) ∧
      ∃ finding ∈ outcome.vulnerabilities,
        finding.category = .str "Precision Loss" ∧ finding.line = some (.ofIndex 0) := by
  have hversion : version? (Comment.strip scaledDecrement.toList) = .ok none := by decide +kernel
  have hcode : splitLines (Comment.strip scaledDecrement.toList) = [scaledDecrement.toList] := by decide +kernel
  have hchecked := check_eq_ok_iff.mpr ⟨none, hversion, rfl⟩
  obtain ⟨-, hallows, -, hprecision⟩ := verdicts_never_contradict scaledDecrement _ hchecked
  have happlies : Regime.unprotected.Applies (Comment.strip scaledDecrement.toList) := by
    rw [← Sheet.text_ofSource] at hversion ⊢
    refine (Regime.applies_iff hversion _).mpr ?_
    decide +kernel
  have hunderflow : underflow.atLine (.ofSource scaledDecrement.toList) 0 ∈
      findingsUnder (protectionOf (.ofSource scaledDecrement.toList) none) "unknown"
        (.ofSource scaledDecrement.toList) := by
    refine mem_findingsUnder.mpr (Or.inr ⟨0, scaledDecrement.toList, underflow, congrArg (·[0]?) hcode, ?_, rfl⟩)
    refine mem_lineAdvice.mpr (Or.inr (Or.inr ⟨?_, rfl⟩))
    decide +kernel
  have hplaced : IsUnderflow (underflow.atLine (.ofSource scaledDecrement.toList) 0) :=
    ⟨rfl, rfl, Option.some_ne_none _⟩
  refine ⟨_, hchecked, happlies, ⟨_, hunderflow, hplaced⟩, ?_, ?_⟩
  · exact (hallows _ happlies).2.2.2 _ hunderflow hplaced
  · refine (hprecision 0).mpr ⟨scaledDecrement.toList, congrArg (·[0]?) hcode, ?_⟩
    refine (multiplies_before_dividing_iff ?_).mp ?_
    · decide +kernel
    · decide +kernel

end Rule.Overflow

end ContractAudit
