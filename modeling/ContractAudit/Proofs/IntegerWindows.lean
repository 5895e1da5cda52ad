import ContractAudit.Proofs.CatalogueLayout
import Mathlib.Data.List.Flatten

/-!
# Windows that are integers

A rule that looks at the lines around a line never fails if its windows are integers. A wider window holds every line
of a narrower one, as long as the end of the window is not counted from the end of the source. What excuses a line in
the narrower window excuses it in the wider one, so wider windows only remove findings.
-/

namespace ContractAudit

/-! ## Slices -/

namespace Text

variable {α : Type} {items : List α} {start stop : Int} {item : α}

theorem slice_subset (items : List α) (start stop : Int) : slice items start stop ⊆ items := fun _ h ↦
  List.mem_of_mem_drop (List.mem_of_mem_take h)

/-- With bounds that count from the start, a slice has the items at the indexes between them. -/
theorem mem_slice_iff (hstart : 0 ≤ start) (hstop : 0 ≤ stop) :
    item ∈ slice items start stop ↔ ∃ index : Nat, start ≤ index ∧ index < stop ∧ items[index]? = some item := by
  have hfirst : resolveBound items.length start = start.toNat := if_neg (by omega)
  have hlast : resolveBound items.length stop = stop.toNat := if_neg (by omega)
  simp only [slice, hfirst, hlast, List.mem_iff_getElem?, List.getElem?_take, Option.ite_none_right_eq_some,
    List.getElem?_drop]
  constructor
  · rintro ⟨offset, hoffset, hitem⟩
    exact ⟨start.toNat + offset, by omega, by omega, hitem⟩
  · rintro ⟨index, hle, hlt, hitem⟩
    refine ⟨index - start.toNat, by omega, ?_⟩
    rwa [Nat.add_sub_cancel' (by omega)]

/-- Bounds that count from the start and lie further apart enclose more. -/
theorem slice_subset_slice {start' stop' : Int} (hstart' : 0 ≤ start') (hstart : start' ≤ start) (hstop : 0 ≤ stop)
    (hstop' : stop ≤ stop') : slice items start stop ⊆ slice items start' stop' := by
  intro item hitem
  obtain ⟨index, hle, hlt, hindex⟩ := (mem_slice_iff (by omega) hstop).mp hitem
  exact (mem_slice_iff hstart' (by omega)).mpr ⟨index, by omega, by omega, hindex⟩

end Text

open Text

open scoped List

namespace Window

variable {narrow wide : Int} (lines : List Line) (index : Nat)

theorem after_int (size : Int) (extra : Nat) :
    after (.int size) extra lines index = .ok (slice lines index (index + size + extra)) := rfl

/-- A longer look ahead finds what a shorter one does. -/
theorem any_after_of_le (hnarrow : 0 ≤ narrow) (hle : narrow ≤ wide) (extra : Nat) {test : Line → Bool}
    (h : (slice lines index (index + narrow + extra)).any test = true) :
    (slice lines index (index + wide + extra)).any test = true := by
  obtain ⟨line, hline, htest⟩ := List.any_eq_true.mp h
  exact List.any_eq_true.mpr ⟨line, slice_subset_slice (by omega) (by omega) (by omega) (by omega) hline, htest⟩

/-- A longer look back finds what a shorter one does, also when the shorter one ends behind the line itself. -/
theorem any_before_of_le (hle : narrow ≤ wide) {test : Line → Bool}
    (h : (slice lines (max 0 (index - narrow)) (index + 1)).any test = true) :
    (slice lines (max 0 (index - wide)) (index + 1)).any test = true := by
  obtain ⟨line, hline, htest⟩ := List.any_eq_true.mp h
  exact List.any_eq_true.mpr ⟨line, slice_subset_slice (by omega) (by omega) (by omega) (by omega) hline, htest⟩

end Window

namespace Rule

/-! ## Passes -/

theorem mark_sublist_mark {α : Type} {sheet : Sheet} {items : List α} {advise advise' : α → Nat → List Advice}
    (h : ∀ item index, (advise item index).Sublist (advise' item index)) :
    (sheet.mark items advise).Sublist (sheet.mark items advise') :=
  List.Sublist.flatMap_right _ fun entry _ ↦ (h entry.1 entry.2).map _

/-- What a list has beyond a part of it can be split off, also in front of the same findings. -/
theorem exists_missing_of_sublist {reported reported' : List Finding} (h : reported'.Sublist reported)
    (overall : List Finding) :
    ∃ missing, missing ⊆ reported ∧ (reported ++ overall).Perm (reported' ++ overall ++ missing) := by
  obtain ⟨missing, hperm⟩ := h.exists_perm_append
  refine ⟨missing, fun finding hfinding ↦ hperm.symm.subset (List.mem_append_right _ hfinding), ?_⟩
  calc
    reported ++ overall
    _ ~ reported' ++ missing ++ overall := hperm.append_right overall
    _ = reported' ++ (missing ++ overall) := List.append_assoc _ _ _
    _ ~ reported' ++ (overall ++ missing) := List.perm_append_comm.append_left reported'
    _ = reported' ++ overall ++ missing := (List.append_assoc _ _ _).symm

/-- Who is excused more often is advised less. -/
theorem adviceUnless_sublist {excused excused' : Bool} (h : excused' = true → excused = true) (called : Bool)
    (advice : Advice) :
    (adviceUnless (.ok excused) called advice).Sublist (adviceUnless (.ok excused') called advice) := by
  cases excused' with
  | true =>
    rw [h rfl]
  | false =>
    rw [adviceUnless_ok, adviceUnless_ok]
    cases excused with
    | true => simp
    | false => exact List.Sublist.refl _

namespace AccessControl

variable (lookahead : Int)

/-- With a number of lines to look ahead there is a verdict on every sheet. -/
theorem returns_judge (sheet : Sheet) : Returns (judge (.int lookahead) sheet) := by
  rw [judge, returns_bind_of_forall fun _ ↦ returns_pure _, returns_mapM]
  intro entry _
  simp only [judgeLine, Window.after_int]
  split
  · exact returns_pure _
  · refine returns_bind.mpr ⟨_, rfl, ?_⟩
    split <;> exact returns_pure _

def atLines (sheet : Sheet) : List Finding := sheet.mark sheet.code (lineAdvice (.int lookahead) sheet.code)

theorem check_int (source : String) :
    (analyzer (.int lookahead)).check (.str source) = .ok
      { analyzer := "Access Control Analyzer"
        vulnerabilities := atLines lookahead (.ofSource source.toList)
          ++ (overallAdvice (Comment.strip source.toList)).map Advice.overall } := by
  obtain ⟨verdict, hverdict⟩ := returns_judge lookahead (.ofSource source.toList)
  rw [analyzer, Analyzer.check_ofRule, hverdict, eq_of_judge_eq_ok hverdict, Sheet.text_ofSource]
  rfl

/-- A window of a number of lines is a slice of the code. -/
theorem lineAdvice_int (code : List Line) (line : Line) (index : Nat) :
    lineAdvice (.int lookahead) code line index =
      adviceUnless (.ok ((slice code index (index + lookahead + (0 : Nat))).any hasGuard)) (isAdminFunction line)
        (unguardedFunction (nameOn line)) := rfl

/-- The findings at lines are about the administrative functions without a guard in their window, at their headers. -/
theorem mem_atLines {sheet : Sheet} {finding : Finding} :
    finding ∈ atLines lookahead sheet ↔
      ∃ (index : Nat) (line : Line), sheet.code[index]? = some line ∧ isAdminFunction line = true ∧
        (slice sheet.code index (index + lookahead + (0 : Nat))).any hasGuard = false ∧
        finding = (unguardedFunction (nameOn line)).atLine sheet index := by
  simp only [atLines, Sheet.mem_mark, lineAdvice_int, adviceUnless_ok, List.mem_ite_nil_right, List.mem_singleton,
    Bool.and_eq_true, Bool.not_eq_true']
  constructor
  · rintro ⟨⟨line, index⟩, hentry, advice, ⟨⟨hadmin, hguard⟩, rfl⟩, rfl⟩
    exact ⟨index, line, List.mem_zipIdx_iff_getElem?.mp hentry, hadmin, hguard, rfl⟩
  · rintro ⟨index, line, hline, hadmin, hguard, rfl⟩
    exact ⟨(line, index), List.mem_zipIdx_iff_getElem?.mpr hline, _, ⟨⟨hadmin, hguard⟩, rfl⟩, rfl⟩

/-- A longer look ahead reports fewer functions. -/
theorem atLines_sublist {narrow wide : Int} (hnarrow : 0 ≤ narrow) (hle : narrow ≤ wide) (sheet : Sheet) :
    (atLines wide sheet).Sublist (atLines narrow sheet) := by
  apply mark_sublist_mark
  intro line index
  rw [lineAdvice_int, lineAdvice_int]
  exact adviceUnless_sublist (Window.any_after_of_le sheet.code index hnarrow hle 0) _ _

end AccessControl

namespace UncheckedCall

variable (lookahead lookback : Int)

theorem isChecked_int (code : List Line) (line : Line) (index : Nat) :
    isChecked (.int lookahead) code line index =
      .ok (sameLineCheck.occursIn line ||
        (slice code index (index + lookahead + (1 : Nat))).any successCheck.occursIn) := by
  rw [isChecked, Window.after_int]
  cases sameLineCheck.occursIn line <;> rfl

theorem insideTry_int (code : List Line) (index : Nat) :
    insideTry (.int lookback) code index =
      .ok ((slice code (max 0 (index - lookback)) (index + 1)).any tryStatement.occursIn) := rfl

theorem returns_reportUnless (advice : Advice) (pattern : Pattern) (excused : Bool) (sheet : Sheet)
    (entry : Line × Nat) : Returns (reportUnless advice pattern (.ok excused) sheet entry) := by
  rw [reportUnless]
  split
  · exact returns_pure _
  · cases excused <;> exact returns_pure _

theorem returns_judge (sheet : Sheet) : Returns (judge ⟨.int lookahead, .int lookback⟩ sheet) := by
  rw [judge, returns_bind_of_forall fun _ ↦ returns_pure _, returns_mapM]
  intro entry _
  simp only [judgeLine, isChecked_int, insideTry_int]
  refine (returns_bind_of_forall fun calls ↦ ?_).mpr (returns_reportUnless _ _ _ _ _)
  refine (returns_bind_of_forall fun sends ↦ ?_).mpr (returns_reportUnless _ _ _ _ _)
  refine (returns_bind_of_forall fun delegates ↦ ?_).mpr (returns_reportUnless _ _ _ _ _)
  exact (returns_bind_of_forall fun members ↦ returns_pure _).mpr (returns_reportUnless _ _ _ _ _)

def atLines (sheet : Sheet) : List Finding :=
  sheet.mark sheet.code (lineAdvice ⟨.int lookahead, .int lookback⟩ sheet.code)

theorem check_int (source : String) :
    (analyzer ⟨.int lookahead, .int lookback⟩).check (.str source) = .ok
      { analyzer := "Unchecked Call Analyzer"
        vulnerabilities := atLines lookahead lookback (.ofSource source.toList) } := by
  obtain ⟨verdict, hverdict⟩ := returns_judge lookahead lookback (.ofSource source.toList)
  rw [analyzer, Analyzer.check_ofRule, hverdict, eq_of_judge_eq_ok hverdict]
  rfl

/-- Longer looks ahead and back give less advice of each kind, and each kind depends on one of them at most. -/
theorem atLines_sublist {ahead ahead' back back' : Int} (hahead : 0 ≤ ahead) (hahead' : ahead ≤ ahead')
    (hback : back ≤ back') (sheet : Sheet) : (atLines ahead' back' sheet).Sublist (atLines ahead back sheet) := by
  apply mark_sublist_mark
  intro line index
  have hchecked (h : (sameLineCheck.occursIn line ||
        (slice sheet.code index (index + ahead + (1 : Nat))).any successCheck.occursIn) = true) :
      (sameLineCheck.occursIn line ||
        (slice sheet.code index (index + ahead' + (1 : Nat))).any successCheck.occursIn) = true := by
    rw [Bool.or_eq_true] at h ⊢
    exact h.imp_right (Window.any_after_of_le sheet.code index hahead hahead' 1)
  have htry (h : (slice sheet.code (max 0 (index - back)) (index + 1)).any tryStatement.occursIn = true) :
      (slice sheet.code (max 0 (index - back')) (index + 1)).any tryStatement.occursIn = true :=
    Window.any_before_of_le sheet.code index hback h
  simp only [lineAdvice, isChecked_int, insideTry_int]
  exact (((adviceUnless_sublist hchecked _ _).append (adviceUnless_sublist hchecked _ _)).append
    (List.Sublist.refl _)).append (adviceUnless_sublist htry _ _)

end UncheckedCall

/-- Wider windows only remove findings. A longer look ahead for guards leaves a part of the findings on access control,
in their order, and what is missing are findings at headers of administrative functions. Longer looks ahead for checks
and back for try statements leave a part of the findings on unchecked calls. The look back may be negative. -/
theorem wider_windows_only_remove (source : String) :
    (∀ narrow wide : Int, 0 ≤ narrow → narrow ≤ wide →
      ∃ outcome other, (AccessControl.analyzer (.int narrow)).check (.str source) = .ok outcome ∧
        (AccessControl.analyzer (.int wide)).check (.str source) = .ok other ∧
        other.vulnerabilities.Sublist outcome.vulnerabilities ∧
        ∃ missing, outcome.vulnerabilities.Perm (other.vulnerabilities ++ missing) ∧
          ∀ finding ∈ missing, finding.severity = .medium ∧
            ∃ index line, (Sheet.ofSource source.toList).code[index]? = some line ∧
              AccessControl.isAdminFunction line = true ∧
              finding =
                (AccessControl.unguardedFunction (AccessControl.nameOn line)).atLine (.ofSource source.toList) index) ∧
    ∀ ahead ahead' back back' : Int, 0 ≤ ahead → ahead ≤ ahead' → back ≤ back' →
      ∃ outcome other, (UncheckedCall.analyzer ⟨.int ahead, .int back⟩).check (.str source) = .ok outcome ∧
        (UncheckedCall.analyzer ⟨.int ahead', .int back'⟩).check (.str source) = .ok other ∧
        other.vulnerabilities.Sublist outcome.vulnerabilities := by
  constructor
  · intro narrow wide hnarrow hle
    have hlines := AccessControl.atLines_sublist hnarrow hle (.ofSource source.toList)
    obtain ⟨missing, hmissing, hperm⟩ := exists_missing_of_sublist hlines _
    refine ⟨_, _, AccessControl.check_int narrow source, AccessControl.check_int wide source,
      hlines.append (List.Sublist.refl _), missing, hperm, fun finding hfinding ↦ ?_⟩
    obtain ⟨index, line, hline, hadmin, -, rfl⟩ := (AccessControl.mem_atLines narrow).mp (hmissing hfinding)
    exact ⟨rfl, index, line, hline, hadmin, rfl⟩
  · intro ahead ahead' back back' hahead hahead' hback
    exact ⟨_, _, UncheckedCall.check_int ahead back source, UncheckedCall.check_int ahead' back' source,
      UncheckedCall.atLines_sublist hahead hahead' hback (.ofSource source.toList)⟩

def guardBelow : String := "function setFee(f)\n  try a(f).pay(f)\n  onlyOwner"

theorem wider_windows_only_remove_guardBelow :
    (∃ outcome other, (AccessControl.analyzer (.int 2)).check (.str guardBelow) = .ok outcome ∧
      (AccessControl.analyzer (.int 3)).check (.str guardBelow) = .ok other ∧
      other.vulnerabilities.Sublist outcome.vulnerabilities ∧
      outcome.vulnerabilities.length = 1 ∧ other.vulnerabilities.length = 0) ∧
    ∃ outcome other, (UncheckedCall.analyzer ⟨.int 0, .int (-1)⟩).check (.str guardBelow) = .ok outcome ∧
      (UncheckedCall.analyzer ⟨.int 5, .int 0⟩).check (.str guardBelow) = .ok other ∧
      other.vulnerabilities.Sublist outcome.vulnerabilities ∧
      outcome.vulnerabilities.length = 1 ∧ other.vulnerabilities.length = 0 := by
  have hcount {analyzer : Analyzer} {outcome : Outcome} {count : Nat}
      (hcheck : analyzer.check (.str guardBelow) = .ok outcome)
      (h : (analyzer.check (.str guardBelow)).map (·.vulnerabilities.length) = .ok count) :
      outcome.vulnerabilities.length = count := by
    rw [hcheck] at h
    exact Except.ok.inj h
  constructor
  · obtain ⟨outcome, other, hnarrow, hwide, hsublist, -⟩ :=
      (wider_windows_only_remove guardBelow).1 2 3 (by decide) (by decide)
    exact ⟨outcome, other, hnarrow, hwide, hsublist, hcount hnarrow (by decide +kernel),
      hcount hwide (by decide +kernel)⟩
  · obtain ⟨outcome, other, hnarrow, hwide, hsublist⟩ :=
      (wider_windows_only_remove guardBelow).2 0 5 (-1) 0 (by decide) (by decide) (by decide)
    exact ⟨outcome, other, hnarrow, hwide, hsublist, hcount hnarrow (by decide +kernel),
      hcount hwide (by decide +kernel)⟩

end Rule

end ContractAudit
