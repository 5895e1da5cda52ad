import ContractAudit.Proofs.AnalyzerFaults
import ContractAudit.Proofs.JsonTokens
import ContractAudit.Proofs.OverflowVerdicts

/-!
# Version numbers

The version that a contract asks for is found by a pattern with runs that could share characters in many ways: blanks
and operators, which may be blanks too, then digits between dots. The preferred way gives every run all that it can
take, and no part behind it ever has to ask for something back, because digits are no operators and dots are no digits.
So the numbers are read as they are written. Nothing before the pragma can be taken for it, since the word does not
overlap itself. The rule then compares numbers and not texts: version 0.10 comes after version 0.8.
-/

namespace ContractAudit

open Text

/-! ## Where a word begins -/

/-- A word whose first letter comes only once in it does not begin in a text without the word and end behind it. -/
theorem Text.eq_nil_of_prefix_append {c : Char} {word letters front rest : List Char} (spelled : word = c :: letters)
    (once : c ∉ letters) (absent : ¬ word <:+: front) (h : word <+: front ++ (word ++ rest)) : front = [] := by
  subst spelled
  rcases List.prefix_or_prefix_of_prefix h (List.prefix_append front _) with hinside | ⟨tail, hword⟩
  · exact absurd hinside.isInfix absent
  · rw [← hword, List.append_assoc, List.prefix_append_right_inj] at h
    cases front with
    | nil => rfl
    | cons d front =>
      cases tail with
      | nil =>
        rw [← hword, List.append_nil] at absent
        exact absurd List.infix_rfl absent
      | cons e tail =>
        obtain ⟨rfl, -⟩ := List.cons_prefix_cons.mp h
        obtain ⟨rfl, rfl⟩ := List.cons.inj hword
        exact absurd (List.mem_append_right front List.mem_cons_self) once

namespace Rule.Overflow

open Pattern

/-! ## Numerals -/

/-- The characters write the number in decimal, possibly with zeros in front, and there are at most 4300 of them. -/
structure Writes (digits : List Char) (n : Nat) : Prop where
  decimal : ∃ zeros, digits = List.replicate zeros '0' ++ Nat.toDigits 10 n
  short : digits.length ≤ 4300

theorem isDecimalDigit_of_isDigit {c : Char} (h : c.isDigit = true) :
    isDecimalDigit c = true ∧ isOperator c = false := by
  have hall : ((List.range 58).all fun code ↦ decide (code < 48) ||
      isDecimalDigit (Char.ofNat code) && !isOperator (Char.ofNat code)) = true := by
    decide +kernel
  obtain ⟨hlow, hhigh⟩ := Bool.and_eq_true_iff.mp h
  have hlow : 48 ≤ c.toNat := UInt32.le_iff_toNat_le.mp (of_decide_eq_true hlow)
  have hhigh : c.toNat ≤ 57 := UInt32.le_iff_toNat_le.mp (of_decide_eq_true hhigh)
  have hcode := List.all_eq_true.mp hall c.toNat (List.mem_range.mpr (by omega))
  rw [Char.ofNat_toNat, decide_eq_false (by omega), Bool.false_or, Bool.and_eq_true, Bool.not_eq_true'] at hcode
  exact hcode

theorem numeral_replicate_zero (zeros : Nat) : numeral (List.replicate zeros '0') = 0 := by
  induction zeros with
  | zero => rfl
  | succ zeros ih =>
    rw [List.replicate_succ', Json.numeral_append_singleton, ih]
    rfl

namespace Writes

variable {digits : List Char} {n : Nat}

theorem ne_nil (h : Writes digits n) : digits ≠ [] := by
  obtain ⟨zeros, rfl⟩ := h.decimal
  exact List.append_ne_nil_of_right_ne_nil _ Nat.toDigits_ne_nil

theorem isDigit (h : Writes digits n) : ∀ c ∈ digits, c.isDigit = true := by
  obtain ⟨zeros, rfl⟩ := h.decimal
  refine List.forall_mem_append.mpr ⟨?_, fun c ↦ Nat.isDigit_of_mem_toDigits (by decide) (by decide)⟩
  intro c hc
  rw [List.eq_of_mem_replicate hc]
  rfl

/-- Zeros in front do not count. -/
theorem numeral_eq (h : Writes digits n) : numeral digits = n := by
  obtain ⟨zeros, rfl⟩ := h.decimal
  rw [numeral, List.foldl_append]
  change List.foldl _ (numeral (List.replicate zeros '0')) _ = n
  rw [numeral_replicate_zero]
  exact Json.numeral_toDigits n

/-- A number that is written out is read as that number. -/
theorem versionPart_eq (h : Writes digits n) : versionPart digits = .ok n := by
  rw [versionPart_of_short h.short, h.numeral_eq]

end Writes

/-! ## The pragma -/

def pragmaText (operators major minor patch : List Char) : List Char :=
  "pragma solidity ".toList ++ operators ++ major ++ ['.'] ++ minor ++ ['.'] ++ patch

variable {operators major minor patch rest : List Char} {a b c : Nat}

/-- The blanks that begin the operators belong to the gap before them. -/
theorem pragmaText_append (operators major minor patch rest : List Char) :
    pragmaText operators major minor patch ++ rest =
      "pragma".toList ++ ([' '] ++ ("solidity".toList ++ ((' ' :: operators.takeWhile isBlank) ++
        (operators.dropWhile isBlank ++ (major ++ (['.'] ++ (minor ++ (['.'] ++ (patch ++ rest))))))))) := by
  have hwords : "pragma solidity ".toList = "pragma".toList ++ ([' '] ++ ("solidity".toList ++ [' '])) := by
    decide +kernel
  have hsplit (first second : List Char) : first ++ ([' '] ++ (second ++ [' '])) ++ operators ++ major ++ ['.'] ++ minor
      ++ ['.'] ++ patch ++ rest = first ++ ([' '] ++ (second ++ ((' ' :: operators.takeWhile isBlank) ++
        (operators.dropWhile isBlank ++ (major ++ (['.'] ++ (minor ++ (['.'] ++ (patch ++ rest))))))))) := by
    have hoperators := List.takeWhile_append_dropWhile (p := isBlank) (l := operators)
    simp only [List.append_assoc, List.cons_append, List.nil_append]
    rw [← List.append_assoc (operators.takeWhile isBlank), hoperators]
  calc pragmaText operators major minor patch ++ rest
    _ = "pragma".toList ++ ([' '] ++ ("solidity".toList ++ [' '])) ++ operators ++ major ++ ['.'] ++ minor ++ ['.']
        ++ patch ++ rest :=
      congrArg (· ++ operators ++ major ++ ['.'] ++ minor ++ ['.'] ++ patch ++ rest) hwords
    _ = _ := hsplit "pragma".toList "solidity".toList

/-- Digits are taken up to the dot or the rest behind them. -/
theorem prefers_digits {digits rest : List Char} {n : Nat} (hdigits : Writes digits n)
    (stop : ∀ c ∈ rest.head?, isDecimalDigit c = false) (label : Nat) (before : Option Char)
    (captures : List (Nat × Span)) :
    (capture label (some1 isDecimalDigit)).Prefers ⟨before, digits ++ rest, captures⟩
      ⟨lastOr before digits, rest, (label, ⟨digits ++ rest, rest⟩) :: captures⟩ := by
  have hinside : ∀ c ∈ digits, isDecimalDigit c = true := fun c hc ↦
    (isDecimalDigit_of_isDigit (hdigits.isDigit c hc)).1
  exact (prefers_some1 hdigits.ne_nil hinside stop).capture

/-- What follows the blanks that begin the operators is no blank. -/
theorem isBlank_head?_eq_false {text : List Char} (number : ∀ c ∈ text.head?, isOperator c = false) :
    ∀ c ∈ (operators.dropWhile isBlank ++ text).head?, isBlank c = false := by
  have hstop : ∀ c ∈ (operators.dropWhile isBlank).head?, isBlank c = false := head?_dropWhile_stop
  intro c hc
  cases hothers : operators.dropWhile isBlank with
  | nil =>
    rw [hothers] at hc
    exact (Bool.or_eq_false_iff.mp (number c hc)).2
  | cons d others =>
    rw [hothers] at hc hstop
    exact hstop c hc

/-- The preferred way to match a pragma keeps its three numbers. -/
theorem exists_matchAt?_pragmaText (hoperators : ∀ c ∈ operators, isOperator c = true) (hmajor : Writes major a)
    (hminor : Writes minor b) (hpatch : Writes patch c) (stop : ∀ c ∈ rest.head?, isDecimalDigit c = false)
    (before : Option Char) :
    ∃ found, versionPragma.matchAt? before (pragmaText operators major minor patch ++ rest) = some found ∧
      found.group 1 = major ∧ found.group 2 = minor ∧ found.group 3 = patch := by
  have hdot (text : List Char) : ∀ c ∈ (['.'] ++ text).head?, isDecimalDigit c = false := by
    intro c hc
    cases hc
    rfl
  have hnumber (text : List Char) : ∀ c ∈ (major ++ text).head?, isOperator c = false := by
    intro c hc
    rw [List.head?_append_of_ne_nil _ hmajor.ne_nil] at hc
    exact (isDecimalDigit_of_isDigit (hmajor.isDigit c (List.mem_of_head? hc))).2
  have hblank : ∀ c ∈ ' ' :: operators.takeWhile isBlank, isBlank c = true :=
    List.forall_mem_cons.mpr ⟨rfl, fun c ↦ List.mem_takeWhile_imp⟩
  have hletter (text : List Char) : ∀ c ∈ ("solidity".toList ++ text).head?, isBlank c = false := by
    intro c hc
    cases hc
    rfl
  have hpragma (text : List Char) : (lit "pragma").Prefers ⟨before, "pragma".toList ++ text, []⟩
      ⟨lastOr before "pragma".toList, text, []⟩ := prefers_lit rfl
  have hgap (last : Option Char) (text : List Char) : gap.Prefers ⟨last, [' '] ++ ("solidity".toList ++ text), []⟩
      ⟨lastOr last [' '], "solidity".toList ++ text, []⟩ :=
    prefers_some1 (List.cons_ne_nil ' ' []) (List.forall_mem_singleton.mpr rfl) (hletter text)
  have hsolidity (last : Option Char) (text : List Char) : (lit "solidity").Prefers
      ⟨last, "solidity".toList ++ text, []⟩ ⟨lastOr last "solidity".toList, text, []⟩ := prefers_lit rfl
  have hdotted (last : Option Char) (text : List Char) (captures : List (Nat × Span)) : (lit ".").Prefers
      ⟨last, ['.'] ++ text, captures⟩ ⟨lastOr last ['.'], text, captures⟩ := prefers_lit rfl
  have hprefers := (((((((hpragma _).append (hgap _ _)).append (hsolidity _ _)).append
    (prefers_some1 (List.cons_ne_nil _ _) hblank (isBlank_head?_eq_false (hnumber _)))).append
    (prefers_run (fun c hc ↦ hoperators c (List.dropWhile_subset _ hc)) (hnumber _))).append
    (prefers_digits hmajor (hdot _) 1 _ _)).append (hdotted _ _ _)).append
    (prefers_digits hminor (hdot _) 2 _ _) |>.append
    ((hdotted _ _ _).append (prefers_digits hpatch stop 3 _ _)).maybe
  rw [← pragmaText_append] at hprefers
  refine ⟨_, hprefers.matchAt?_eq, ?_, ?_, ?_⟩
  · exact Span.text_eq rfl
  · exact Span.text_eq rfl
  · exact Span.text_eq rfl

/-- The first pragma of a text is read, wherever it stands. -/
theorem version?_pragmaText {before : List Char} (absent : ¬ "pragma".toList <:+: before)
    (hoperators : ∀ c ∈ operators, isOperator c = true) (hmajor : Writes major a) (hminor : Writes minor b)
    (hpatch : Writes patch c) (stop : ∀ c ∈ rest.head?, isDecimalDigit c = false) :
    version? (before ++ (pragmaText operators major minor patch ++ rest)) = .ok (some ⟨a, b, c⟩) := by
  obtain ⟨found, hfound, hfirst, hsecond, hthird⟩ :=
    exists_matchAt?_pragmaText hoperators hmajor hminor hpatch stop (lastOr none before)
  have hstarts : versionPragma.StartsWith "pragma".toList :=
    (startsWith_lit "pragma").append.append.append.append.append.append.append.append
  have hsearch : versionPragma.search? (before ++ (pragmaText operators major minor patch ++ rest)) = some found := by
    refine searchFrom?_append (fun front back hbefore hback ↦ ?_) hfound
    refine hstarts.matchAt?_eq_none (fun hprefix ↦ hback ?_) _
    rw [pragmaText_append] at hprefix
    refine Text.eq_nil_of_prefix_append (c := 'p') rfl (by decide +kernel) (fun hinside ↦ absent ?_) hprefix
    rw [hbefore]
    exact hinside.trans (List.suffix_append front back).isInfix
  rw [version?, hsearch]
  simp only [hfirst, hsecond, hthird, hmajor.versionPart_eq, hminor.versionPart_eq, hpatch.versionPart_eq]
  rfl

theorem isOperator_iff {c : Char} : isOperator c = true ↔ c ∈ "^~>=<".toList ∨ isBlank c = true := by
  have hsigns : "^~>=<".toList = ['^', '~', '>', '=', '<'] := rfl
  simp [isOperator, hsigns, or_assoc]

/-- A block on a line that is exempt from checks is reported there where there are checks. -/
theorem uncheckedBlock_reported_iff {protection : Protection} {label : String} {sheet : Sheet} {index : Nat}
    {line : Line} (hline : sheet.code[index]? = some line) (hblock : uncheckedBlock.occursIn (mathLine line) = true) :
    (∃ finding ∈ findingsUnder protection label sheet,
        IsUncheckedBlock finding ∧ finding.line = some (.ofIndex index)) ↔ protection.builtIn = true := by
  constructor
  · rintro ⟨finding, hfinding, hunchecked, -⟩
    exact builtIn_of_isUncheckedBlock hfinding hunchecked
  · intro hbuiltIn
    have hadvice : uncheckedArithmetic ∈ lineAdvice protection (mathLine line) index :=
      mem_lineAdvice.mpr (Or.inl ⟨⟨hbuiltIn, hblock⟩, rfl⟩)
    exact ⟨_, mem_findingsUnder.mpr (Or.inr ⟨index, line, uncheckedArithmetic, hline, hadvice, rfl⟩),
      ⟨rfl, rfl, rfl, Option.some_ne_none _⟩, rfl⟩

/-- A version is read exactly as it is written, whatever stands before the first pragma, whatever operators come before
the version and whatever follows it, as long as a number has at most 4300 digits and does not go on behind the version.
The arithmetic of a source is taken to be checked by the compiler if and only if its major and minor version come, as
numbers, at or after 0.8; so a block that is exempt from checks is reported under these versions and no others. -/
theorem versions_read_exactly (before operators major minor patch rest : List Char) (a b c : Nat)
    (absent : ¬ "pragma".toList <:+: before)
    (hoperators : ∀ c ∈ operators, c ∈ "^~>=<".toList ∨ isBlank c = true)
    (hmajor : Writes major a) (hminor : Writes minor b) (hpatch : Writes patch c)
    (stop : ∀ c ∈ rest.head?, isDecimalDigit c = false) :
    version? (before ++ (pragmaText operators major minor patch ++ rest)) = .ok (some ⟨a, b, c⟩) ∧
      ∀ source : String,
        Comment.strip source.toList = before ++ (pragmaText operators major minor patch ++ rest) →
        ∃ outcome protection, analyzer.check (.str source) = .ok outcome ∧
          outcome.vulnerabilities = findingsUnder protection (Version.label ⟨a, b, c⟩) (.ofSource source.toList) ∧
          (protection.builtIn = true ↔ toLex (0, 8) ≤ toLex (a, b)) ∧
          protection.library = safeMath.occursIn (Comment.strip source.toList) ∧
          ∀ index line, (splitLines (Comment.strip source.toList))[index]? = some line →
            uncheckedBlock.occursIn (mathLine line) = true →
            ((∃ finding ∈ outcome.vulnerabilities,
                IsUncheckedBlock finding ∧ finding.line = some (.ofIndex index)) ↔ toLex (0, 8) ≤ toLex (a, b)) := by
  have hversion := version?_pragmaText absent (fun c hc ↦ isOperator_iff.mpr (hoperators c hc)) hmajor hminor hpatch
    stop
  refine ⟨hversion, fun source hsource ↦ ?_⟩
  rw [← hsource] at hversion
  have hbuiltIn : (protectionOf (.ofSource source.toList) (some ⟨a, b, c⟩)).builtIn = true ↔
      toLex (0, 8) ≤ toLex (a, b) := Version.checksArithmetic_iff ⟨a, b, c⟩
  refine ⟨_, _, check_eq_ok_iff.mpr ⟨_, hversion, rfl⟩, rfl, hbuiltIn, ?_, fun index line hline hblock ↦ ?_⟩
  · rw [← Sheet.text_ofSource]
    rfl
  · exact (uncheckedBlock_reported_iff hline hblock).trans hbuiltIn

def exemptBlock : String := "unchecked \x7b n++; \x7d"

def exemptUnder (version : String) : String := "// Wallet\npragma solidity ^>= " ++ version ++ ";\n" ++ exemptBlock

def ReportsExempt (outcome : Outcome) : Prop :=
  ∃ finding ∈ outcome.vulnerabilities, IsUncheckedBlock finding ∧ finding.line = some (.ofIndex 2)

/-- The block is reported under versions 0.10.0 and 1.0.0, and it is not under version 0.7.9. -/
theorem versions_read_exactly_exemptUnder :
    (∃ outcome, analyzer.check (.str (exemptUnder "0.10.0")) = .ok outcome ∧ ReportsExempt outcome) ∧
      (∃ outcome, analyzer.check (.str (exemptUnder "1.0.0")) = .ok outcome ∧ ReportsExempt outcome) ∧
      ∃ outcome, analyzer.check (.str (exemptUnder "0.7.9")) = .ok outcome ∧ ¬ ReportsExempt outcome := by
  have habsent : ¬ "pragma".toList <:+: ['\n'] := by decide +kernel
  have hsigns : ("^>= ".toList.all fun c ↦ "^~>=<".toList.contains c || isBlank c) = true := by decide +kernel
  have hoperators : ∀ c ∈ "^>= ".toList, c ∈ "^~>=<".toList ∨ isBlank c = true := fun c hc ↦
    (Bool.or_eq_true_iff.mp (List.all_eq_true.mp hsigns c hc)).imp_left List.contains_iff_mem.mp
  have hbehind : (";\n" ++ exemptBlock).toList.head?.any isDecimalDigit = false := by decide +kernel
  have hstop := (Option.any_eq_false _ _).mp hbehind
  have hblock : uncheckedBlock.occursIn (mathLine exemptBlock.toList) = true := by decide +kernel
  have hreports (version : String) (a b c : Nat)
      (hmajor : Writes (Nat.toDigits 10 a) a) (hminor : Writes (Nat.toDigits 10 b) b)
      (hpatch : Writes (Nat.toDigits 10 c) c)
      (hstrip : Comment.strip (exemptUnder version).toList = ['\n'] ++ (pragmaText "^>= ".toList (Nat.toDigits 10 a)
        (Nat.toDigits 10 b) (Nat.toDigits 10 c) ++ (";\n" ++ exemptBlock).toList))
      (hline : (splitLines (Comment.strip (exemptUnder version).toList))[2]? = some exemptBlock.toList) :
      ∃ outcome, analyzer.check (.str (exemptUnder version)) = .ok outcome ∧
        (ReportsExempt outcome ↔ toLex (0, 8) ≤ toLex (a, b)) := by
    obtain ⟨-, hjudged⟩ := versions_read_exactly ['\n'] _ _ _ _ _ a b c habsent hoperators hmajor hminor hpatch hstop
    obtain ⟨outcome, protection, hcheck, -, -, -, hreported⟩ := hjudged _ hstrip
    exact ⟨outcome, hcheck, hreported 2 _ hline hblock⟩
  obtain ⟨ten, hten, htenReports⟩ := hreports "0.10.0" 0 10 0 ⟨⟨0, rfl⟩, by decide⟩ ⟨⟨0, rfl⟩, by decide⟩
    ⟨⟨0, rfl⟩, by decide⟩ (by decide +kernel) (by decide +kernel)
  obtain ⟨one, hone, honeReports⟩ := hreports "1.0.0" 1 0 0 ⟨⟨0, rfl⟩, by decide⟩ ⟨⟨0, rfl⟩, by decide⟩
    ⟨⟨0, rfl⟩, by decide⟩ (by decide +kernel) (by decide +kernel)
  obtain ⟨seven, hseven, hsevenReports⟩ := hreports "0.7.9" 0 7 9 ⟨⟨0, rfl⟩, by decide⟩ ⟨⟨0, rfl⟩, by decide⟩
    ⟨⟨0, rfl⟩, by decide⟩ (by decide +kernel) (by decide +kernel)
  rw [Prod.Lex.toLex_le_toLex] at htenReports honeReports hsevenReports
  refine ⟨⟨ten, hten, htenReports.mpr ?_⟩, ⟨one, hone, honeReports.mpr ?_⟩, seven, hseven, fun h ↦ ?_⟩
  · exact Or.inr ⟨rfl, by decide⟩
  · exact Or.inl (by decide)
  · rcases hsevenReports.mp h with hmajor | ⟨-, hminor⟩
    · exact absurd hmajor (by decide)
    · exact absurd hminor (by decide)

end Rule.Overflow

end ContractAudit
