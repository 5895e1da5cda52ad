import ContractAudit.Proofs.Layout

/-!
# The layout of the built-in rules

Each built-in rule is written as passes over the lines and advice for the whole source, and its verdict is laid out in
its own categories. A rule that is stopped by a fault gives no verdict at all.
-/

namespace ContractAudit.Rule

open Text

/-- A pass that reports one advice is a selection of lines. -/
theorem map_atLine_eq_mark {α : Type} (sheet : Sheet) (items : List α) (test : α → Bool) (advice : Advice) :
    ((items.zipIdx.filter fun entry ↦ test entry.1).map (·.2)).map (advice.atLine sheet) =
      sheet.mark items fun item _ ↦ if test item then [advice] else [] := by
  rw [Sheet.mark]
  induction items.zipIdx with
  | nil => rfl
  | cons entry rest ih =>
    rw [List.filter_cons, List.flatMap_cons, ← ih]
    cases test entry.1 <;> rfl

namespace Reentrancy

def lineAdvice (entry : Line × Bool) (_ : Nat) : List Advice :=
  if entry.2 && isExternalCall entry.1 then [callBeforeWrite] else []

def overallAdvice (code : List Char) : List Advice := if unguarded code then [noGuard] else []

theorem findings_eq (sheet : Sheet) :
    findings sheet = sheet.mark (sheet.code.zip (writesAfter sheet.code).1) lineAdvice
      ++ (overallAdvice sheet.text).map Advice.overall := by
  rw [findings, exposedCalls, overallAdvice]
  congr 1
  · exact map_atLine_eq_mark sheet _ (fun entry : Line × Bool ↦ entry.2 && isExternalCall entry.1) callBeforeWrite
  · split <;> rfl

theorem layout_findings (sheet : Sheet) : Layout sheet ["Reentrancy"] (findings sheet) := by
  rw [findings_eq]
  refine Layout.append (Sheet.layout_mark (by decide) ?_ ?_) (layout_overall ?_ ?_) fun _ h _ ↦ apart_mark_overall h
  · rw [List.length_zip]
    exact Nat.min_le_left _ _
  · intro entry index
    exact Advice.Orderly.ite (by decide) _
  · rw [overallAdvice]
    split <;> decide
  · rw [overallAdvice]
    split <;> decide

end Reentrancy

namespace Timestamp

def lineAdvice (random : Bool) (line : Line) (_ : Nat) : List Advice :=
  (if timestamp.occursIn line && condition.occursIn line then [conditionAdvice random line] else [])
    ++ if blockNumber.occursIn line && timeSpan.occursIn line then [blockNumberAsTime] else []

theorem findings_eq (sheet : Sheet) :
    findings sheet = sheet.mark sheet.code (lineAdvice (randomness.occursIn sheet.text)) := by
  rw [findings, Sheet.mark]
  congr 1
  funext entry
  rw [lineFindings, lineAdvice]
  split <;> split <;> rfl

theorem conditionAdvice_orderly (random : Bool) (line : Line) :
    Advice.Orderly ["Timestamp Dependence"] [conditionAdvice random line] := by
  rw [conditionAdvice]
  split
  · decide
  · split <;> decide

theorem layout_findings (sheet : Sheet) :
    Layout sheet ["Timestamp Dependence", "Block Number as Time"] (findings sheet) := by
  rw [findings_eq]
  refine Sheet.layout_mark (by decide) (Nat.le_refl _) fun line index ↦ ?_
  exact ((conditionAdvice_orderly _ line).ite _).append (Advice.Orderly.ite (by decide) _)

end Timestamp

namespace TxOrigin

def lineAdvice (line : Line) (_ : Nat) : List Advice :=
  if !originator.occursIn line then []
  else if authorization.occursIn line then [authentication]
  else [usage]

theorem findings_eq (sheet : Sheet) : findings sheet = sheet.mark sheet.code lineAdvice := by
  rw [findings, Sheet.mark]
  congr 1
  funext entry
  rw [lineFindings, lineAdvice]
  split
  · rfl
  · split <;> rfl

theorem layout_findings (sheet : Sheet) :
    Layout sheet ["tx.origin Authentication", "tx.origin Usage"] (findings sheet) := by
  rw [findings_eq]
  refine Sheet.layout_mark (by decide) (Nat.le_refl _) fun line index ↦ ?_
  rw [lineAdvice]
  split
  · decide
  · split <;> decide

end TxOrigin

namespace SelfDestruct

def lineAdvice (code : List Line) (line : Line) (index : Nat) : List Advice :=
  match destruction.search? line with
  | none => []
  | some found =>
    (if ownerGuard.occursIn (guardedText code index (found.offset line)) then byOwner else byAnyone)
      :: if deprecatedName.occursIn line then [deprecated] else []

theorem findings_eq (sheet : Sheet) : findings sheet = sheet.mark sheet.code (lineAdvice sheet.code) := by
  rw [findings, Sheet.mark]
  congr 1
  funext entry
  rw [lineFindings, lineAdvice]
  cases destruction.search? entry.1 with
  | none => rfl
  | some found =>
    dsimp only
    split <;> split <;> rfl

theorem layout_findings (sheet : Sheet) :
    Layout sheet ["Self-Destruct Present", "Unprotected Self-Destruct", "Deprecated Suicide"] (findings sheet) := by
  rw [findings_eq]
  refine Sheet.layout_mark (by decide) (Nat.le_refl _) fun line index ↦ ?_
  rw [lineAdvice]
  split
  · decide
  · split <;> split <;> decide

end SelfDestruct

namespace Overflow

def lineAdvice (protection : Protection) (line : Line) (_ : Nat) : List Advice :=
  (if protection.builtIn && uncheckedBlock.occursIn line then [uncheckedArithmetic] else [])
    ++ (if multiplyThenDivide.occursIn line && !divideThenMultiply.occursIn line then [precisionLoss] else [])
    ++ if decrement.occursIn line && !protection.any then [underflow] else []

theorem flatMap_lineFindings (protection : Protection) (sheet : Sheet) (lines : List Line) :
    lines.zipIdx.flatMap (lineFindings protection sheet) = sheet.mark lines (lineAdvice protection) := by
  rw [Sheet.mark]
  congr 1
  funext entry
  simp only [lineFindings, lineAdvice, List.map_append, apply_ite (List.map _), List.map_cons, List.map_nil]

def protectionOf (sheet : Sheet) (version : Option Version) : Protection :=
  ⟨version.any Version.checksArithmetic, safeMath.occursIn sheet.text⟩

def overallAdvice (sheet : Sheet) (version : Option Version) : List Advice :=
  if (sheet.code.map mathLine).any arithmetic.occursIn && !(protectionOf sheet version).any then
    [unprotected ((version.map Version.label).getD "unknown")]
  else []

/-- There is a verdict on overflows exactly if the version can be read. -/
theorem judge_eq_ok_iff {sheet : Sheet} {verdict : Verdict} :
    judge sheet = .ok verdict ↔ ∃ version, version? sheet.text = .ok version ∧
      verdict =
        { vulnerabilities := (overallAdvice sheet version).map Advice.overall
            ++ sheet.mark (sheet.code.map mathLine) (lineAdvice (protectionOf sheet version)) } := by
  rw [judge, bind_eq_ok_iff]
  refine exists_congr fun version ↦ and_congr_right fun _ ↦ ?_
  rw [← flatMap_lineFindings, overallAdvice, apply_ite (List.map Advice.overall)]
  constructor
  · intro h
    cases h
    rfl
  · rintro rfl
    rfl

theorem laidOut_judge {sheet : Sheet} {verdict : Verdict} (h : judge sheet = .ok verdict) :
    verdict.LaidOut sheet ["Integer Overflow/Underflow", "Precision Loss", "Integer Underflow"] := by
  obtain ⟨version, -, rfl⟩ := judge_eq_ok_iff.mp h
  refine ⟨Layout.append (layout_overall ?_ ?_) (Sheet.layout_mark (by decide) ?_ ?_) ?_, Layout.nil⟩
  · rw [overallAdvice]
    split
    · exact List.forall_mem_singleton.mpr ⟨List.mem_cons_self, rfl⟩
    · decide
  · rw [overallAdvice]
    split
    · exact List.pairwise_singleton _ _
    · exact List.Pairwise.nil
  · exact Nat.le_of_eq (List.length_map _)
  · intro line index
    have hunchecked : Advice.Orderly ["Integer Overflow/Underflow"] [uncheckedArithmetic] := by decide
    have hprecision : Advice.Orderly ["Precision Loss"] [precisionLoss] := by decide
    have hunderflow : Advice.Orderly ["Integer Underflow"] [underflow] := by decide
    exact ((hunchecked.ite _).append (hprecision.ite _)).append (hunderflow.ite _)
  · intro finding hfinding other hother
    exact (apart_mark_overall hother hfinding).symm

end Overflow

/-! ## Rules with windows -/

/-- A list that is worked off is marked like the pass that sees the same advice in each result. -/
theorem flatMap_eq_mark_of_mapM {α β : Type} {sheet : Sheet} {items : List α}
    {step : α × Nat → Except Fault β} {results : List β} {view : β → List Finding} {advise : α → Nat → List Advice}
    (h : items.zipIdx.mapM step = .ok results)
    (hstep : ∀ item index result, step (item, index) = .ok result →
      view result = (advise item index).map (·.atLine sheet index)) :
    results.flatMap view = sheet.mark items advise := by
  rw [Sheet.mark]
  revert h
  induction items.zipIdx generalizing results with
  | nil =>
    intro h
    cases h
    rfl
  | cons entry rest ih =>
    intro h
    rw [List.mapM_cons, bind_eq_ok_iff] at h
    obtain ⟨first, hfirst, h⟩ := h
    obtain ⟨others, hothers, h⟩ := bind_eq_ok_iff.mp h
    cases h
    rw [List.flatMap_cons, List.flatMap_cons, ih hothers, hstep entry.1 entry.2 first hfirst]

/-- Advice on a line that calls for it, unless there is an excuse or the search for one fails. -/
def adviceUnless (excused : Except Fault Bool) (called : Bool) (advice : Advice) : List Advice :=
  if called && (excused matches .ok false) then [advice] else []

theorem adviceUnless_orderly {advice : Advice} {categories : List String} (h : Advice.Orderly categories [advice])
    (excused : Except Fault Bool) (called : Bool) : Advice.Orderly categories (adviceUnless excused called advice) :=
  h.ite _

theorem adviceUnless_ok (excused called : Bool) (advice : Advice) :
    adviceUnless (.ok excused) called advice = if called && !excused then [advice] else [] := by
  cases excused <;> rfl

namespace AccessControl

def lineAdvice (lookahead : Value) (code : List Line) (line : Line) (index : Nat) : List Advice :=
  adviceUnless ((Window.after lookahead 0 code index).map (·.any hasGuard)) (isAdminFunction line)
    (unguardedFunction (nameOn line))

def overallAdvice (code : List Char) : List Advice :=
  (if originator.occursIn code then [originatorUsed] else [])
    ++ if isAdminFunction code && !hasGuard code then [noMechanism] else []

theorem toList_judgeLine {lookahead : Value} {sheet : Sheet} {line : Line} {index : Nat} {found : Option Finding}
    (h : judgeLine lookahead sheet (line, index) = .ok found) :
    found.toList = (lineAdvice lookahead sheet.code line index).map (·.atLine sheet index) := by
  simp only [judgeLine] at h
  rw [lineAdvice]
  cases hadmin : isAdminFunction line with
  | false =>
    rw [hadmin] at h
    cases h
    rfl
  | true =>
    rw [hadmin] at h
    obtain ⟨window, hwindow, h⟩ := bind_eq_ok_iff.mp h
    rw [hwindow, Except.map, adviceUnless_ok]
    cases hguard : window.any hasGuard <;> rw [hguard] at h <;> cases h <;> rfl

/-- A verdict is a pass over the lines that gives advice on each of them. -/
theorem eq_of_judge_eq_ok {lookahead : Value} {sheet : Sheet} {verdict : Verdict}
    (h : judge lookahead sheet = .ok verdict) :
    verdict =
      { vulnerabilities := sheet.mark sheet.code (lineAdvice lookahead sheet.code)
          ++ (overallAdvice sheet.text).map Advice.overall } := by
  obtain ⟨perLine, hperLine, h⟩ := bind_eq_ok_iff.mp h
  cases h
  have hmarks : perLine.flatMap Option.toList = sheet.mark sheet.code (lineAdvice lookahead sheet.code) :=
    flatMap_eq_mark_of_mapM hperLine fun _ _ _ ↦ toList_judgeLine
  rw [← hmarks, overallAdvice]
  simp only [overall, List.map_append, apply_ite (List.map _), List.map_cons, List.map_nil]
  congr 2
  exact List.filterMap_eq_flatMap_toList ..

theorem laidOut_judge {lookahead : Value} {sheet : Sheet} {verdict : Verdict}
    (h : judge lookahead sheet = .ok verdict) : verdict.LaidOut sheet ["Access Control"] := by
  rw [eq_of_judge_eq_ok h]
  refine ⟨Layout.append (Sheet.layout_mark (by decide) (Nat.le_refl _) ?_) (layout_overall ?_ ?_)
    fun _ hfirst _ ↦ apart_mark_overall hfirst, Layout.nil⟩
  · intro line index
    apply adviceUnless_orderly
    exact ⟨List.Sublist.refl _, List.forall_mem_singleton.mpr rfl⟩
  · rw [overallAdvice]
    split <;> split <;> decide
  · rw [overallAdvice]
    split <;> split <;> decide

end AccessControl

namespace UncheckedCall

def lineAdvice (windows : Windows) (code : List Line) (line : Line) (index : Nat) : List Advice :=
  adviceUnless (isChecked windows.lookahead code line index) (lowLevelCall.occursIn line) uncheckedCall
    ++ adviceUnless (isChecked windows.lookahead code line index) (sendCall.occursIn line) uncheckedSend
    ++ adviceUnless (.ok (delegateCheck.occursIn line)) (delegateCall.occursIn line) uncheckedDelegateCall
    ++ adviceUnless (insideTry windows.lookback code index) (memberCall.occursIn line) unhandledCall

theorem reportUnless_eq_ok {advice : Advice} {pattern : Pattern} {excused : Except Fault Bool} {sheet : Sheet}
    {line : Line} {index : Nat} {found : List Finding}
    (h : reportUnless advice pattern excused sheet (line, index) = .ok found) :
    found = (adviceUnless excused (pattern.occursIn line) advice).map (·.atLine sheet index) := by
  simp only [reportUnless] at h
  cases hpattern : pattern.occursIn line with
  | false =>
    rw [hpattern] at h
    cases h
    rfl
  | true =>
    rw [hpattern] at h
    obtain ⟨holds, rfl, h⟩ := bind_eq_ok_iff.mp h
    cases holds <;> cases h <;> rfl

theorem judgeLine_eq_ok {windows : Windows} {sheet : Sheet} {line : Line} {index : Nat} {found : List Finding}
    (h : judgeLine windows sheet (line, index) = .ok found) :
    found = (lineAdvice windows sheet.code line index).map (·.atLine sheet index) := by
  simp only [judgeLine] at h
  obtain ⟨calls, hcalls, h⟩ := bind_eq_ok_iff.mp h
  obtain ⟨sends, hsends, h⟩ := bind_eq_ok_iff.mp h
  obtain ⟨delegates, hdelegates, h⟩ := bind_eq_ok_iff.mp h
  obtain ⟨members, hmembers, h⟩ := bind_eq_ok_iff.mp h
  cases h
  rw [lineAdvice, List.map_append, List.map_append, List.map_append, ← reportUnless_eq_ok hcalls,
    ← reportUnless_eq_ok hsends, ← reportUnless_eq_ok hdelegates, ← reportUnless_eq_ok hmembers]

theorem eq_of_judge_eq_ok {windows : Windows} {sheet : Sheet} {verdict : Verdict}
    (h : judge windows sheet = .ok verdict) :
    verdict = { vulnerabilities := sheet.mark sheet.code (lineAdvice windows sheet.code) } := by
  obtain ⟨perLine, hperLine, h⟩ := bind_eq_ok_iff.mp h
  cases h
  have hmarks : perLine.flatMap id = sheet.mark sheet.code (lineAdvice windows sheet.code) :=
    flatMap_eq_mark_of_mapM hperLine fun _ _ _ ↦ judgeLine_eq_ok
  rw [← hmarks, List.flatMap_id]

theorem laidOut_judge {windows : Windows} {sheet : Sheet} {verdict : Verdict}
    (h : judge windows sheet = .ok verdict) :
    verdict.LaidOut sheet
      ["Unchecked Call", "Unchecked Send", "Unchecked Delegatecall", "External Call Without Error Handling"] := by
  rw [eq_of_judge_eq_ok h]
  refine ⟨Sheet.layout_mark (by decide) (Nat.le_refl _) fun line index ↦ ?_, Layout.nil⟩
  have hcall : Advice.Orderly ["Unchecked Call"] [uncheckedCall] := by decide
  have hsend : Advice.Orderly ["Unchecked Send"] [uncheckedSend] := by decide
  have hdelegate : Advice.Orderly ["Unchecked Delegatecall"] [uncheckedDelegateCall] := by decide
  have hmember : Advice.Orderly ["External Call Without Error Handling"] [unhandledCall] := by decide
  exact (((adviceUnless_orderly hcall _ _).append (adviceUnless_orderly hsend _ _)).append
    (adviceUnless_orderly hdelegate _ _)).append (adviceUnless_orderly hmember _ _)

end UncheckedCall

/-! ## Ways to save gas -/

namespace Gas

def lineAdvice (line : Line) (_ : Nat) : List Advice :=
  (if lengthInLoop.occursIn line then [unboundedLoop] else [])
    ++ (if stringComparison.occursIn line && !hashCall.occursIn line then [comparedStrings] else [])
    ++ if decide ((mapIndexWrite.allMatches line).length > maxWritesPerLine) then [severalWrites] else []

theorem layout_singleLines (sheet : Sheet) :
    Layout sheet ["Unbounded Loop", "String Comparison", "Multiple Storage Writes"] (singleLines sheet) := by
  have hmark : singleLines sheet = sheet.mark sheet.code lineAdvice := by
    simp only [singleLines, Sheet.mark, lineAdvice, decide_eq_true_eq]
  rw [hmark]
  refine Sheet.layout_mark (by decide) (Nat.le_refl _) fun line index ↦ ?_
  have hloop : Advice.Orderly ["Unbounded Loop"] [unboundedLoop] := by decide
  have hstring : Advice.Orderly ["String Comparison"] [comparedStrings] := by decide
  have hwrites : Advice.Orderly ["Multiple Storage Writes"] [severalWrites] := by decide
  exact ((hloop.ite _).append (hstring.ite _)).append (hwrites.ite _)

/-- A pass that advises at most once at a line keeps to one category. -/
theorem layout_reportLines {sheet : Sheet} {advise : Line → Nat → Option Advice} (category : String)
    (h : ∀ line index, ∀ advice ∈ advise line index, advice.category = category ∧ advice.isPlain = true) :
    Layout sheet [category] (reportLines sheet advise) := by
  have hmark : reportLines sheet advise = sheet.mark sheet.code fun line index ↦ (advise line index).toList := by
    rw [reportLines, Sheet.mark, List.filterMap_eq_flatMap_toList]
    congr 1
    funext entry
    exact Option.toList_map ..
  rw [hmark]
  refine Sheet.layout_mark (List.nodup_singleton _) (Nat.le_refl _) fun line index ↦ ?_
  cases hadvice : advise line index with
  | none => exact ⟨List.nil_sublist _, fun _ hnone ↦ absurd hnone List.not_mem_nil⟩
  | some advice =>
    obtain ⟨hcategory, hplain⟩ := h line index advice hadvice
    refine ⟨?_, List.forall_mem_singleton.mpr hplain⟩
    rw [← hcategory]
    exact List.Sublist.refl _

theorem layout_storageReadsInLoops (sheet : Sheet) :
    Layout sheet ["Storage Read in Loop"] (storageReadsInLoops sheet) := by
  rw [storageReadsInLoops]
  apply layout_reportLines
  intro line index advice hadvice
  obtain ⟨-, ⟨⟩⟩ := Option.ite_none_right_eq_some.mp hadvice
  exact ⟨rfl, rfl⟩

theorem layout_unusedVariables (sheet : Sheet) : Layout sheet ["Unused Variable"] (unusedVariables sheet) := by
  rw [unusedVariables]
  apply layout_reportLines
  intro line index advice hadvice
  obtain ⟨-, hadvice⟩ := Option.ite_none_left_eq_some.mp hadvice
  obtain ⟨found, -, hadvice⟩ := Option.bind_eq_some_iff.mp hadvice
  obtain ⟨-, ⟨⟩⟩ := Option.ite_none_right_eq_some.mp hadvice
  exact ⟨rfl, rfl⟩

theorem layout_inefficientTypes (sheet : Sheet) : Layout sheet ["Inefficient Type"] (inefficientTypes sheet) := by
  rw [inefficientTypes]
  apply layout_reportLines
  intro line index advice hadvice
  obtain ⟨-, hadvice⟩ := Option.ite_none_left_eq_some.mp hadvice
  obtain ⟨-, ⟨⟩⟩ := Option.ite_none_right_eq_some.mp hadvice
  exact ⟨rfl, rfl⟩

theorem layout_externalCandidates (sheet : Sheet) :
    Layout sheet ["Function Visibility"] (externalCandidates sheet) := by
  rw [externalCandidates]
  apply layout_reportLines
  intro line index advice hadvice
  obtain ⟨found, -, hadvice⟩ := Option.bind_eq_some_iff.mp hadvice
  obtain ⟨-, ⟨⟩⟩ := Option.ite_none_right_eq_some.mp hadvice
  exact ⟨rfl, rfl⟩

theorem layout_immutableCandidates (sheet : Sheet) : Layout sheet ["State Variable"] (immutableCandidates sheet) := by
  rw [immutableCandidates]
  apply layout_reportLines
  intro line index advice hadvice
  obtain ⟨found, -, hadvice⟩ := Option.bind_eq_some_iff.mp hadvice
  dsimp only at hadvice
  split at hadvice
  · obtain ⟨-, ⟨⟩⟩ := Option.ite_none_right_eq_some.mp hadvice
    exact ⟨rfl, rfl⟩
  · cases hadvice

/-- The issues on gas come in eight categories and are apart from each other. -/
theorem layout_issues (sheet : Sheet) :
    Layout sheet ["Unbounded Loop", "String Comparison", "Multiple Storage Writes", "Storage Read in Loop",
      "Unused Variable", "Inefficient Type", "Function Visibility", "State Variable"] (issues sheet) := by
  refine Layout.perm ?_ (List.mergeSort_perm _ _)
  refine ((((layout_singleLines sheet).append_of_disjoint (layout_storageReadsInLoops sheet) ?_).append_of_disjoint
    (layout_unusedVariables sheet) ?_).append_of_disjoint (layout_inefficientTypes sheet) ?_).append_of_disjoint
    (layout_externalCandidates sheet) ?_ |>.append_of_disjoint (layout_immutableCandidates sheet) ?_
  all_goals decide

end Gas

end ContractAudit.Rule
