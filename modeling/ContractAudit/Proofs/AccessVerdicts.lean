import ContractAudit.Proofs.IntegerWindows
import ContractAudit.Proofs.PatternMatch

/-!
# Verdicts on lines and on the whole contract

The rule for access control looks for guards, for administrative functions and for the originator of the transaction
twice: in single lines and in the code as a whole. A line is a part of the whole, and none of these patterns asks for
anything around what it takes, so what occurs in a line occurs in the whole. The converse fails for patterns with blanks
in them, which may take a line feed, but it holds for the name of the originator. This is what keeps the verdicts on the
lines and the one on the contract from contradicting each other, whatever the window.
-/

namespace ContractAudit

/-! ## Parts of joined lines -/

namespace Text

theorem infix_joinLines_of_mem {line : Line} {lines : List Line} (h : line ∈ lines) : line <:+: joinLines lines := by
  fun_induction joinLines lines with
  | case1 => cases h
  | case2 first =>
    cases List.mem_singleton.mp h
    exact List.infix_rfl
  | case3 first next lines ih =>
    rcases List.mem_cons.mp h with rfl | hlater
    · exact (List.prefix_append _ _).isInfix
    · exact (ih hlater).trans ((List.suffix_cons _ _).trans (List.suffix_append _ _)).isInfix

/-- A text that has no line feed in it does not reach across one. -/
theorem infix_or_infix_of_feed {part first second : List Char} (oneLine : '\n' ∉ part)
    (h : part <:+: first ++ '\n' :: second) : part <:+: first ∨ part <:+: second := by
  have hnil {start : List Char} (hpart : start ⊆ part) (hstart : start <+: '\n' :: second) : start = [] := by
    rcases List.prefix_cons_iff.mp hstart with rfl | ⟨later, rfl, -⟩
    · rfl
    · exact absurd (hpart List.mem_cons_self) oneLine
  rcases List.infix_append_iff.mp h with hfirst | hsecond | ⟨left, right, rfl, hleft, hright⟩
  · exact Or.inl hfirst
  · rcases List.infix_cons_iff.mp hsecond with hstart | hlater
    · rw [hnil (List.Subset.refl _) hstart]
      exact Or.inl List.nil_infix
    · exact Or.inr hlater
  · rw [hnil (List.subset_append_right _ _) hright, List.append_nil]
    exact Or.inl hleft.isInfix

/-- A piece without a line feed lies on one of the lines. -/
theorem exists_infix_of_infix_joinLines {part : List Char} {lines : List Line} (oneLine : '\n' ∉ part)
    (nonempty : lines ≠ []) (h : part <:+: joinLines lines) : ∃ line ∈ lines, part <:+: line := by
  fun_induction joinLines lines with
  | case1 => exact absurd rfl nonempty
  | case2 line => exact ⟨line, List.mem_singleton_self line, h⟩
  | case3 line next lines ih =>
    rcases infix_or_infix_of_feed oneLine h with hfirst | hlater
    · exact ⟨line, List.mem_cons_self, hfirst⟩
    · obtain ⟨found, hfound, hpart⟩ := ih (List.cons_ne_nil next lines) hlater
      exact ⟨found, List.mem_cons_of_mem _ hfound, hpart⟩

end Text

open Text

/-! ## From lines to the whole -/

theorem Sheet.infix_strip_of_mem {source : List Char} {line : Line} (h : line ∈ (ofSource source).code) :
    line <:+: Comment.strip source := by
  have hline := infix_joinLines_of_mem h
  rwa [ofSource, joinLines_splitLines] at hline

/-- A word without a line feed occurs in the code exactly when it occurs in a line of it. -/
theorem occursIn_lit_strip_iff {word : String} (oneLine : '\n' ∉ word.toList) (source : List Char) :
    (Pattern.lit word).occursIn (Comment.strip source) = true ↔
      ∃ line ∈ (Sheet.ofSource source).code, (Pattern.lit word).occursIn line = true := by
  simp only [Pattern.occursIn_lit_iff]
  constructor
  · intro h
    rw [← joinLines_splitLines (Comment.strip source)] at h
    exact exists_infix_of_infix_joinLines oneLine (splitLines_ne_nil _) h
  · rintro ⟨line, hline, hword⟩
    exact hword.trans (Sheet.infix_strip_of_mem hline)

namespace Rule

theorem TxOrigin.findings_eq_nil_iff (sheet : Sheet) :
    findings sheet = [] ↔ ∀ line ∈ sheet.code, originator.occursIn line = false := by
  have hline (entry : Line × Nat) : lineFindings sheet entry = [] ↔ originator.occursIn entry.1 = false := by
    rw [lineFindings]
    cases originator.occursIn entry.1 with
    | false => simp
    | true =>
      rw [Bool.not_true, if_neg Bool.false_ne_true]
      split <;> simp
  calc
    findings sheet = []
    _ ↔ ∀ entry ∈ sheet.code.zipIdx, lineFindings sheet entry = [] := List.flatMap_eq_nil_iff
    _ ↔ ∀ entry ∈ sheet.code.zipIdx, originator.occursIn entry.1 = false := forall₂_congr fun entry _ ↦ hline entry
    _ ↔ ∀ line ∈ sheet.code, originator.occursIn line = false :=
      @forall_mem_zipIdx_fst _ 0 sheet.code fun line ↦ originator.occursIn line = false

/-- The rule for the originator finds something exactly when the originator is named anywhere in the code. -/
theorem TxOrigin.vulnerable_iff (source : List Char) :
    (!(findings (.ofSource source)).isEmpty) = true ↔ originator.occursIn (Comment.strip source) = true := by
  rw [originator, occursIn_lit_strip_iff (by decide), Bool.not_eq_true', List.isEmpty_eq_false_iff, Ne,
    findings_eq_nil_iff]
  simp only [not_forall, Bool.not_eq_false, exists_prop]
  rfl

namespace AccessControl

/-- A guard in a part of a text is a guard in the text. -/
theorem hasGuard_of_infix {part text : List Char} (hpart : part <:+: text) (h : hasGuard part = true) :
    hasGuard text = true := by
  have hignore : guards.all Pattern.ignoresSurroundings = true := by decide
  exact Pattern.anyOccursIn_of_infix hignore hpart h

theorem isAdminFunction_of_infix {part text : List Char} (hpart : part <:+: text) (h : isAdminFunction part = true) :
    isAdminFunction text = true := by
  have hignore : adminFunctions.all Pattern.ignoresSurroundings = true := by decide
  exact Pattern.anyOccursIn_of_infix hignore hpart h

/-- The findings at lines do not count when advice for the whole contract is looked for. -/
theorem overall_mem_append_iff {lookahead : Int} {sheet : Sheet} {advice : Advice} {advices : List Advice} :
    advice.overall ∈ atLines lookahead sheet ++ advices.map Advice.overall ↔
      advice.overall ∈ advices.map Advice.overall := by
  rw [List.mem_append, or_iff_right]
  intro h
  exact Sheet.line_ne_none_of_mem_mark h rfl

theorem noMechanism_ne_originatorUsed : noMechanism.overall ≠ originatorUsed.overall := by
  intro h
  cases congrArg Finding.severity h

/-- What is said about a contract as a whole, and when. -/
theorem mem_map_overallAdvice_iff {code : List Char} {finding : Finding} :
    finding ∈ (overallAdvice code).map Advice.overall ↔
      originator.occursIn code = true ∧ finding = originatorUsed.overall ∨
        (isAdminFunction code = true ∧ hasGuard code = false) ∧ finding = noMechanism.overall := by
  simp only [overallAdvice, List.map_append, apply_ite (List.map Advice.overall), List.map_cons, List.map_nil,
    List.mem_append, List.mem_ite_nil_right, List.mem_singleton, Bool.and_eq_true, Bool.not_eq_true']

theorem noMechanism_mem_iff {code : List Char} :
    noMechanism.overall ∈ (overallAdvice code).map Advice.overall ↔
      isAdminFunction code = true ∧ hasGuard code = false := by
  simp only [mem_map_overallAdvice_iff, noMechanism_ne_originatorUsed, and_false, false_or, and_true]

theorem originatorUsed_mem_iff {code : List Char} :
    originatorUsed.overall ∈ (overallAdvice code).map Advice.overall ↔ originator.occursIn code = true := by
  simp only [mem_map_overallAdvice_iff, noMechanism_ne_originatorUsed.symm, and_false, or_false, and_true]

/-- The verdicts on lines and the verdict on the contract agree, whatever the look ahead. Where the contract is said to
have no access control, every line that heads an administrative function has its own finding. Where only lines have
findings, a guard occurs somewhere in the code. And the use of the originator is reported for the contract exactly when
the rule for the originator reports a line. -/
theorem line_and_contract_verdicts_agree (source : String) (lookahead : Int) :
    ∃ outcome origin, (analyzer (.int lookahead)).check (.str source) = .ok outcome ∧
      TxOrigin.analyzer.check (.str source) = .ok origin ∧
      (noMechanism.overall ∈ outcome.vulnerabilities →
        ∀ index line, (splitLines (Comment.strip source.toList))[index]? = some line → isAdminFunction line = true →
          (unguardedFunction (nameOn line)).atLine (.ofSource source.toList) index ∈ outcome.vulnerabilities) ∧
      ((∃ finding ∈ outcome.vulnerabilities, finding.severity = .medium ∧ finding.line ≠ none) →
        noMechanism.overall ∉ outcome.vulnerabilities → hasGuard (Comment.strip source.toList) = true) ∧
      (originatorUsed.overall ∈ outcome.vulnerabilities ↔ origin.vulnerable = true) := by
  refine ⟨_, _, check_int lookahead source, rfl, ?_, ?_, ?_⟩
  · intro hhigh index line hline hadmin
    rw [overall_mem_append_iff, noMechanism_mem_iff] at hhigh
    refine List.mem_append_left _ ((mem_atLines lookahead).mpr ⟨index, line, hline, hadmin, ?_, rfl⟩)
    rw [List.any_eq_false]
    intro near hnear hguard
    have hwhole := hasGuard_of_infix (Sheet.infix_strip_of_mem (slice_subset _ _ _ hnear)) hguard
    rw [hhigh.2] at hwhole
    cases hwhole
  · rintro ⟨finding, hfinding, -, hplaced⟩ hnone
    rw [overall_mem_append_iff, noMechanism_mem_iff, not_and, Bool.not_eq_false] at hnone
    apply hnone
    rcases List.mem_append.mp hfinding with hline | hoverall
    · obtain ⟨index, line, hline, hadmin, -, -⟩ := (mem_atLines lookahead).mp hline
      exact isAdminFunction_of_infix (Sheet.infix_strip_of_mem (List.mem_of_getElem? hline)) hadmin
    · obtain ⟨advice, -, rfl⟩ := List.mem_map.mp hoverall
      exact absurd rfl hplaced
  · rw [overall_mem_append_iff, originatorUsed_mem_iff]
    exact (TxOrigin.vulnerable_iff source.toList).symm

def twoUnguarded : String := "function setFee(f)\nfunction Kill()"

/-- Both functions are reported, also with a negative look ahead, which leaves the second one an empty window. -/
theorem line_and_contract_verdicts_agree_twoUnguarded :
    ∃ outcome, (analyzer (.int (-1))).check (.str twoUnguarded) = .ok outcome ∧
      noMechanism.overall ∈ outcome.vulnerabilities ∧
      (unguardedFunction "setFee").atLine (.ofSource twoUnguarded.toList) 0 ∈ outcome.vulnerabilities ∧
      (unguardedFunction "Kill").atLine (.ofSource twoUnguarded.toList) 1 ∈ outcome.vulnerabilities := by
  have hcode : splitLines (Comment.strip twoUnguarded.toList) =
      ["function setFee(f)".toList, "function Kill()".toList] := by decide +kernel
  have hfirst : nameOn "function setFee(f)".toList = "setFee" := by decide +kernel
  have hsecond : nameOn "function Kill()".toList = "Kill" := by decide +kernel
  obtain ⟨outcome, origin, hcheck, -, hlines, -, -⟩ := line_and_contract_verdicts_agree twoUnguarded (-1)
  have hhigh : noMechanism.overall ∈ outcome.vulnerabilities := by
    rw [check_int] at hcheck
    cases hcheck
    rw [overall_mem_append_iff, noMechanism_mem_iff]
    decide +kernel
  rw [← hfirst, ← hsecond]
  rw [hcode] at hlines
  exact ⟨outcome, hcheck, hhigh, hlines hhigh 0 _ rfl (by decide +kernel), hlines hhigh 1 _ rfl (by decide +kernel)⟩

end AccessControl

end Rule

end ContractAudit
