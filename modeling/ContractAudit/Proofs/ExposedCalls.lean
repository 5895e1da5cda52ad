import ContractAudit.Proofs.CatalogueLayout
import Mathlib.Data.Nat.Find

/-!
# Calls before writes

The rule for reentrancy finds the external calls that a write to state follows in one pass, which starts at the last
line and remembers whether it has seen a write. By definition a call is exposed if some later line writes, which
compares every line with every other one. The two agree, and the calls are reported in the order of their lines, each
once.
-/

namespace ContractAudit.Rule.Reentrancy

open Text

/-! ## The definition -/

/-- The line at an index hands control to another contract. -/
def CallsAt (code : List Line) (index : Nat) : Prop :=
  ∃ line, code[index]? = some line ∧ ∃ pattern ∈ externalCalls, pattern.occursIn line = true

/-- The line at an index writes state: it has an assignment, and it declares no local. -/
def WritesAt (code : List Line) (index : Nat) : Prop :=
  ∃ line, code[index]? = some line ∧ assignment.occursIn line = true ∧ localDeclaration.occursIn line = false

/-- The line at an index calls another contract, and a line behind it writes state. -/
def Exposed (code : List Line) (index : Nat) : Prop := CallsAt code index ∧ ∃ later, index < later ∧ WritesAt code later

/-- No line behind the first external call, if there is one, writes state. -/
def QuietBehindFirstCall (code : List Line) : Prop :=
  ∀ first, CallsAt code first → (∀ call, CallsAt code call → first ≤ call) →
    ∀ later, first < later → ¬ WritesAt code later

/-- Where nothing behind the first call writes state, no call is exposed: what lies behind another call lies behind the
first one too. -/
theorem not_exposed_of_quiet {code : List Line} (quiet : QuietBehindFirstCall code) (index : Nat) :
    ¬ Exposed code index := by
  classical
  rintro ⟨hcall, later, hlater, hwrites⟩
  have hexists : ∃ call, CallsAt code call := ⟨index, hcall⟩
  have hfirst : Nat.find hexists ≤ index := Nat.find_min' hexists hcall
  exact quiet (Nat.find hexists) (Nat.find_spec hexists) (fun call ↦ Nat.find_min' hexists) later (by omega) hwrites

theorem callsAt_iff {code : List Line} {index : Nat} :
    CallsAt code index ↔ ∃ line, code[index]? = some line ∧ isExternalCall line = true := by
  simp only [CallsAt, isExternalCall, Pattern.anyOccursIn, List.any_eq_true]

theorem writesAt_iff {code : List Line} {index : Nat} :
    WritesAt code index ↔ ∃ line, code[index]? = some line ∧ isStateWrite line = true := by
  simp only [WritesAt, isStateWrite, Bool.and_eq_true, Bool.not_eq_true']

theorem any_drop_isStateWrite_iff {code : List Line} {index : Nat} :
    (code.drop (index + 1)).any isStateWrite = true ↔ ∃ later, index < later ∧ WritesAt code later := by
  simp only [writesAt_iff, List.any_eq_true, List.mem_iff_getElem?, List.getElem?_drop]
  constructor
  · rintro ⟨line, ⟨offset, hline⟩, hwrite⟩
    exact ⟨index + 1 + offset, by omega, line, hline, hwrite⟩
  · rintro ⟨later, hlater, line, hline, hwrite⟩
    refine ⟨line, ⟨later - (index + 1), ?_⟩, hwrite⟩
    rwa [Nat.add_sub_cancel' hlater]

/-! ## The pass -/

/-- At the end of the pass it is known whether any line writes. -/
theorem writesAfter_snd (lines : List Line) : (writesAfter lines).2 = lines.any isStateWrite := by
  induction lines with
  | nil => rfl
  | cons line rest ih =>
    rw [List.any_cons, ← ih, Bool.or_comm]
    rfl

/-- Each line is marked with whether a line behind it writes, whatever the line itself does. -/
theorem getElem?_writesAfter (lines : List Line) (index : Nat) :
    (writesAfter lines).1[index]? = lines[index]?.map fun _ ↦ (lines.drop (index + 1)).any isStateWrite := by
  induction lines generalizing index with
  | nil => rfl
  | cons line rest ih =>
    cases index with
    | zero => exact congrArg some (writesAfter_snd rest)
    | succ index => exact ih index

/-- The pass finds exactly the exposed calls. -/
theorem mem_exposedCalls {code : List Line} {index : Nat} : index ∈ exposedCalls code ↔ Exposed code index := by
  simp only [exposedCalls, List.mem_map, List.mem_filter, List.mem_zipIdx_iff_getElem?, List.getElem?_zip_eq_some,
    getElem?_writesAfter, Bool.and_eq_true, Exposed, callsAt_iff, ← any_drop_isStateWrite_iff]
  constructor
  · rintro ⟨⟨⟨line, later⟩, place⟩, ⟨⟨hline, hlater⟩, hwrites, hcall⟩, rfl⟩
    rw [hline, Option.map_some, Option.some_inj] at hlater
    exact ⟨⟨line, hline, hcall⟩, hlater.trans hwrites⟩
  · rintro ⟨⟨line, hline, hcall⟩, hwrites⟩
    refine ⟨⟨⟨line, true⟩, index⟩, ⟨⟨hline, ?_⟩, rfl, hcall⟩, rfl⟩
    rw [hline, Option.map_some, hwrites]

theorem pairwise_exposedCalls (code : List Line) : (exposedCalls code).Pairwise (· < ·) := by
  rw [exposedCalls, List.pairwise_map]
  exact (pairwise_snd_zipIdx _).sublist List.filter_sublist

/-! ## The findings -/

/-- The severe findings are those at exposed calls. -/
theorem filter_high_findings (sheet : Sheet) :
    (findings sheet).filter (fun finding ↦ finding.severity = .high) =
      (exposedCalls sheet.code).map (callBeforeWrite.atLine sheet) := by
  rw [findings, List.filter_append, List.filter_eq_self.mpr, List.filter_eq_nil_iff.mpr, List.append_nil]
  · intro finding hfinding
    split at hfinding
    · rw [List.mem_singleton.mp hfinding]
      decide
    · cases hfinding
  · intro finding hfinding
    obtain ⟨index, -, rfl⟩ := List.mem_map.mp hfinding
    rfl

/-- The severe findings are those at the exposed calls, in the order of the lines and each once. There are none if no
line behind the first external call writes state. -/
theorem high_findings_at_exposed_calls (source : String) :
    ∃ (outcome : Outcome) (indexes : List Nat), analyzer.check (.str source) = .ok outcome ∧
      (outcome.vulnerabilities.filter fun finding ↦ finding.severity = .high).map
          (fun finding ↦ (finding.category, finding.line)) =
        indexes.map (fun index ↦ (.str "Reentrancy", some (.ofIndex index))) ∧
      indexes.Pairwise (· < ·) ∧
      (∀ index, index ∈ indexes ↔ Exposed (splitLines (Comment.strip source.toList)) index) ∧
      (QuietBehindFirstCall (splitLines (Comment.strip source.toList)) →
        ∀ finding ∈ outcome.vulnerabilities, finding.severity ≠ .high) := by
  have hfilter := filter_high_findings (.ofSource source.toList)
  refine ⟨_, exposedCalls (Sheet.ofSource source.toList).code, rfl, ?_, pairwise_exposedCalls _,
    fun index ↦ mem_exposedCalls, fun quiet finding hfinding hhigh ↦ ?_⟩
  · rw [hfilter, List.map_map]
    rfl
  · have hmem : finding ∈ (findings (.ofSource source.toList)).filter fun finding ↦ finding.severity = .high :=
      List.mem_filter.mpr ⟨hfinding, decide_eq_true hhigh⟩
    rw [hfilter] at hmem
    obtain ⟨index, hindex, -⟩ := List.mem_map.mp hmem
    exact not_exposed_of_quiet quiet index (mem_exposedCalls.mp hindex)

/-- A call and a write on one line: the write counts for the call before it, but not for the call on its own line. -/
example : exposedCalls ["a.call(b);".toList, "x = a.call(b);".toList, "uint y = 1;".toList] = [0] := by decide +kernel

end ContractAudit.Rule.Reentrancy
