import ContractAudit.Proofs.CatalogueLayout
import ContractAudit.Proofs.CommentScan

/-!
# Where findings are placed

Blanking comments keeps every line feed, so the code has as many lines as the source and a line of the code has the
number of the raw line that it came from. All findings at lines are put there by one function, which shows the raw line;
so they are at real lines. They come in the order of the lines: a pass goes through them once, findings without a line
are in nobody's way, and the rule with several passes sorts what they report.
-/

namespace ContractAudit

open Text

/-! ## Trimmed lines -/

namespace Text

/-- The text is what is left of the line without the blanks around it. -/
structure Trimmed (line text : List Char) : Prop where
  around : ∃ before after, line = before ++ text ++ after ∧ ∀ c ∈ before ++ after, isBlank c = true
  head : ∀ c ∈ text.head?, isBlank c = false
  last : ∀ c ∈ text.getLast?, isBlank c = false

theorem exists_append_trimStart (text : List Char) :
    ∃ before, text = before ++ trimStart text ∧ ∀ c ∈ before, isBlank c = true := by
  refine ⟨text.takeWhile isBlank, ?_, fun c hc ↦ List.mem_takeWhile_imp hc⟩
  rw [trimStart, List.takeWhile_append_dropWhile]

theorem isBlank_head?_trimStart {text : List Char} {c : Char} (h : c ∈ (trimStart text).head?) : isBlank c = false := by
  have hhead := List.head?_dropWhile_not isBlank text
  rw [trimStart, Option.mem_def] at h
  rw [h] at hhead
  exact hhead

theorem trimEnd_eq (text : List Char) : trimEnd text = (trimStart text.reverse).reverse := rfl

theorem exists_trimEnd_append (text : List Char) :
    ∃ after, text = trimEnd text ++ after ∧ ∀ c ∈ after, isBlank c = true := by
  obtain ⟨before, hbefore, hblank⟩ := exists_append_trimStart text.reverse
  refine ⟨before.reverse, ?_, ?_⟩
  · calc
      text = (before ++ trimStart text.reverse).reverse := by rw [← hbefore, List.reverse_reverse]
      _ = trimEnd text ++ before.reverse := by rw [List.reverse_append, trimEnd_eq]
  · intro c hc
    exact hblank c (List.mem_reverse.mp hc)

/-- Blanks are cut off on both sides. What is left after the second cut begins where it began before, unless it is
empty. -/
theorem trimmed_trim (line : List Char) : Trimmed line (trim line) := by
  obtain ⟨before, hbefore, hblank⟩ := exists_append_trimStart line
  obtain ⟨after, hafter, hblank'⟩ := exists_trimEnd_append (trimStart line)
  refine ⟨⟨before, after, ?_, ?_⟩, ?_, ?_⟩
  · rw [List.append_assoc, trim, ← hafter]
    exact hbefore
  · intro c hc
    rcases List.mem_append.mp hc with hc | hc
    · exact hblank c hc
    · exact hblank' c hc
  · intro c hc
    have hhead : c ∈ (trimStart line).head? := by
      rw [hafter]
      exact List.mem_head?_append_of_mem_head? hc
    exact isBlank_head?_trimStart hhead
  · intro c hc
    rw [trim, trimEnd_eq, List.getLast?_reverse] at hc
    exact isBlank_head?_trimStart hc

end Text

/-! ## Real positions -/

namespace Sheet

theorem length_code_ofSource (source : List Char) : (ofSource source).code.length = (ofSource source).raw.length := by
  calc
    (splitLines (Comment.strip source)).length = (Comment.strip source).count '\n' + 1 := length_splitLines _
    _ = source.count '\n' + 1 := by rw [Comment.count_feed_strip]
    _ = (splitLines source).length := (length_splitLines source).symm

end Sheet

/-- The second finding is not at an earlier line than the first, if both are at lines. -/
def Finding.InOrder (first second : Finding) : Prop :=
  ∀ number ∈ first.line, ∀ number' ∈ second.line, number.val ≤ number'.val

/-- The findings of a source are where they are said to be: at a line of the source, which the snippet shows without the
blanks around it, or nowhere, and then there is no snippet. The findings at lines follow the order of the lines. -/
structure Placed (source : List Char) (findings : List Finding) : Prop where
  real : ∀ finding ∈ findings, ∀ number ∈ finding.line,
    1 ≤ number.val ∧ number.val ≤ (splitLines source).length ∧
      ∃ line text, (splitLines source)[number.val - 1]? = some line ∧ Trimmed line text ∧
        finding.snippet = .str (String.ofList text)
  bare : ∀ finding ∈ findings, finding.line = none → finding.snippet = .null
  inOrder : findings.Pairwise Finding.InOrder

/-- The snippet at a line of the source is that line without the blanks around it. -/
theorem Advice.snippet_atLine {source : List Char} {index : Nat} (h : index < (splitLines source).length)
    (advice : Advice) :
    ∃ line text, (splitLines source)[index]? = some line ∧ Trimmed line text ∧
      (advice.atLine (.ofSource source) index).snippet = .str (String.ofList text) := by
  have hline : (splitLines source)[index]? = some (splitLines source)[index] := List.getElem?_eq_getElem h
  refine ⟨_, _, hline, trimmed_trim _, ?_⟩
  simp only [atLine, Sheet.snippet, Sheet.ofSource, hline]

/-- Findings that give advice are placed if they are in order. -/
theorem Layout.placed {source : List Char} {categories : List String} {findings : List Finding}
    (layout : Layout (.ofSource source) categories findings) (inOrder : findings.Pairwise Finding.InOrder) :
    Placed source findings where
  real finding hfinding number hnumber := by
    obtain ⟨advice, -, -, rfl | ⟨index, hindex, rfl⟩⟩ := layout.given finding hfinding
    · cases hnumber
    · cases hnumber
      rw [Sheet.length_code_ofSource] at hindex
      exact ⟨Nat.succ_pos index, hindex, advice.snippet_atLine hindex⟩
  bare finding hfinding hline := by
    obtain ⟨advice, -, -, rfl | ⟨index, -, rfl⟩⟩ := layout.given finding hfinding
    · rfl
    · cases hline
  inOrder := inOrder

/-! ## The order of the lines -/

theorem Advice.inOrder_atLine {sheet : Sheet} {index index' : Nat} (h : index ≤ index') (advice advice' : Advice) :
    (advice.atLine sheet index).InOrder (advice'.atLine sheet index') := by
  intro number hnumber number' hnumber'
  cases hnumber
  cases hnumber'
  exact Nat.succ_le_succ h

/-- A pass reports in the order of the lines. -/
theorem Sheet.pairwise_inOrder_mark {α : Type} (sheet : Sheet) (items : List α) (advise : α → Nat → List Advice) :
    (sheet.mark items advise).Pairwise Finding.InOrder := by
  rw [mark, List.pairwise_flatMap]
  constructor
  · intro entry _
    rw [List.pairwise_map]
    apply List.pairwise_of_forall
    exact Advice.inOrder_atLine (Nat.le_refl _)
  · refine (pairwise_snd_zipIdx items).imp fun hlt finding hfinding finding' hfinding' ↦ ?_
    obtain ⟨advice, -, rfl⟩ := List.mem_map.mp hfinding
    obtain ⟨advice', -, rfl⟩ := List.mem_map.mp hfinding'
    exact Advice.inOrder_atLine (Nat.le_of_lt hlt) advice advice'

theorem inOrder_overall_left (advice : Advice) (finding : Finding) : advice.overall.InOrder finding := by
  intro number hnumber
  cases hnumber

theorem inOrder_overall_right (advice : Advice) (finding : Finding) : finding.InOrder advice.overall := by
  intro number _ number' hnumber'
  cases hnumber'

theorem pairwise_inOrder_overall (advices : List Advice) : (advices.map Advice.overall).Pairwise Finding.InOrder := by
  rw [List.pairwise_map]
  exact List.pairwise_of_forall fun advice advice' ↦ inOrder_overall_left advice advice'.overall

/-- Advice for the whole source can follow the findings at lines. -/
theorem pairwise_inOrder_append_overall {findings : List Finding} (h : findings.Pairwise Finding.InOrder)
    (advices : List Advice) : (findings ++ advices.map Advice.overall).Pairwise Finding.InOrder := by
  refine List.pairwise_append.mpr ⟨h, pairwise_inOrder_overall advices, ?_⟩
  intro finding _ other hother
  obtain ⟨advice, -, rfl⟩ := List.mem_map.mp hother
  exact inOrder_overall_right advice finding

/-- Advice for the whole source can come before the findings at lines. -/
theorem pairwise_inOrder_overall_append {findings : List Finding} (h : findings.Pairwise Finding.InOrder)
    (advices : List Advice) : (advices.map Advice.overall ++ findings).Pairwise Finding.InOrder := by
  refine List.pairwise_append.mpr ⟨pairwise_inOrder_overall advices, h, ?_⟩
  intro other hother finding _
  obtain ⟨advice, -, rfl⟩ := List.mem_map.mp hother
  exact inOrder_overall_left advice finding

namespace Rule.Gas

theorem inOrder_of_lineOf_le {first second : Finding} (h : lineOf first ≤ lineOf second) : first.InOrder second := by
  intro number hnumber number' hnumber'
  rw [Option.mem_def] at hnumber hnumber'
  simpa [lineOf, hnumber, hnumber'] using h

/-- The passes are sorted together, whatever each of them reports. -/
theorem pairwise_inOrder_issues (sheet : Sheet) : (issues sheet).Pairwise Finding.InOrder := by
  have htrans : ∀ first second third : Finding, decide (lineOf first ≤ lineOf second) = true →
      decide (lineOf second ≤ lineOf third) = true → decide (lineOf first ≤ lineOf third) = true := by
    intro first second third h h'
    exact decide_eq_true (Nat.le_trans (of_decide_eq_true h) (of_decide_eq_true h'))
  have htotal : ∀ first second : Finding,
      (decide (lineOf first ≤ lineOf second) || decide (lineOf second ≤ lineOf first)) = true := by
    intro first second
    simpa using Nat.le_total (lineOf first) (lineOf second)
  unfold issues
  exact (List.pairwise_mergeSort htrans htotal _).imp fun h ↦ inOrder_of_lineOf_le (of_decide_eq_true h)

end Rule.Gas

namespace BuiltIn

/-- Every rule reports in the order of the lines. -/
theorem pairwise_inOrder_rule {key : BuiltIn} {settings : SettingsTable} {sheet : Sheet} {verdict : Verdict}
    (h : key.rule settings sheet = .ok verdict) :
    verdict.vulnerabilities.Pairwise Finding.InOrder ∧ verdict.issues.Pairwise Finding.InOrder := by
  cases key with
  | reentrancy =>
    cases h
    dsimp only
    rw [Rule.Reentrancy.findings_eq]
    exact ⟨pairwise_inOrder_append_overall (sheet.pairwise_inOrder_mark _ _) _, List.Pairwise.nil⟩
  | accessControl =>
    rw [Rule.AccessControl.eq_of_judge_eq_ok h]
    exact ⟨pairwise_inOrder_append_overall (sheet.pairwise_inOrder_mark _ _) _, List.Pairwise.nil⟩
  | overflow =>
    obtain ⟨version, -, rfl⟩ := Rule.Overflow.judge_eq_ok_iff.mp h
    exact ⟨pairwise_inOrder_overall_append (sheet.pairwise_inOrder_mark _ _) _, List.Pairwise.nil⟩
  | gas =>
    cases h
    exact ⟨List.Pairwise.nil, Rule.Gas.pairwise_inOrder_issues sheet⟩
  | uncheckedCall =>
    rw [Rule.UncheckedCall.eq_of_judge_eq_ok h]
    exact ⟨sheet.pairwise_inOrder_mark _ _, List.Pairwise.nil⟩
  | timestamp =>
    cases h
    dsimp only
    rw [Rule.Timestamp.findings_eq]
    exact ⟨sheet.pairwise_inOrder_mark _ _, List.Pairwise.nil⟩
  | txOrigin =>
    cases h
    dsimp only
    rw [Rule.TxOrigin.findings_eq]
    exact ⟨sheet.pairwise_inOrder_mark _ _, List.Pairwise.nil⟩
  | selfDestruct =>
    cases h
    dsimp only
    rw [Rule.SelfDestruct.findings_eq]
    exact ⟨sheet.pairwise_inOrder_mark _ _, List.Pairwise.nil⟩

/-- The verdict behind an outcome. -/
theorem exists_rule_of_check_eq_ok {key : BuiltIn} {settings : SettingsTable} {source : String} {outcome : Outcome}
    (h : (key.withWindows settings).check (.str source) = .ok outcome) :
    ∃ verdict, key.rule settings (.ofSource source.toList) = .ok verdict ∧
      outcome.vulnerabilities = verdict.vulnerabilities ∧ outcome.issues = verdict.issues := by
  rw [key.withWindows_eq_ofRule, Analyzer.check_ofRule] at h
  cases hverdict : key.rule settings (.ofSource source.toList) with
  | error fault =>
    rw [hverdict] at h
    cases h
  | ok verdict =>
    rw [hverdict] at h
    cases h
    exact ⟨verdict, rfl, rfl, rfl⟩

/-- Everything that a built-in analyzer reports on a source, with any settings, is placed. -/
theorem reported_positions_real (key : BuiltIn) (settings : SettingsTable) (source : String) (outcome : Outcome)
    (checked : (key.withWindows settings).check (.str source) = .ok outcome) :
    Placed source.toList outcome.vulnerabilities ∧ Placed source.toList outcome.issues := by
  obtain ⟨verdict, hverdict, hvulnerabilities, hissues⟩ := exists_rule_of_check_eq_ok checked
  have hlaidOut := laidOut_rule hverdict
  have hinOrder := pairwise_inOrder_rule hverdict
  rw [hvulnerabilities, hissues]
  exact ⟨hlaidOut.vulnerabilities.placed hinOrder.1, hlaidOut.issues.placed hinOrder.2⟩

def callsAfterComment : String := "/* two\nlines */ x.call(y);\n  y.send(1); // done"

/-- The comment moves neither call from its line. -/
theorem reported_positions_real_callsAfterComment :
    ∃ outcome, (uncheckedCall.withWindows [("lookahead", .int (-1))]).check (.str callsAfterComment) = .ok outcome ∧
      outcome.vulnerabilities.map (·.line.map Subtype.val) = [some 2, some 3] ∧
      Placed callsAfterComment.toList outcome.vulnerabilities ∧ Placed callsAfterComment.toList outcome.issues := by
  have hlines : ((uncheckedCall.withWindows [("lookahead", .int (-1))]).check (.str callsAfterComment)).map
      (fun outcome ↦ outcome.vulnerabilities.map (·.line.map Subtype.val)) = .ok [some 2, some 3] := by
    rfl
  cases hcheck : (uncheckedCall.withWindows [("lookahead", .int (-1))]).check (.str callsAfterComment) with
  | error fault =>
    rw [hcheck] at hlines
    cases hlines
  | ok outcome =>
    rw [hcheck] at hlines
    exact ⟨outcome, rfl, Except.ok.inj hlines, reported_positions_real uncheckedCall _ callsAfterComment outcome hcheck⟩

end BuiltIn

end ContractAudit
