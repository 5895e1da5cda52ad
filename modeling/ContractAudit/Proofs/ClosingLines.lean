import ContractAudit.Proofs.GuardLocality
import Mathlib.Order.Bounds.Basic

/-!
# Where a block ends

The scan for the end of a block keeps a depth, which braces that close nothing take below zero, and whether a brace was
opened yet. What it finds can be said without either: the first line such that from the start to it some line opens a
brace and no more braces are opened than closed. If there is no such line, the block takes the rest of the lines. The
scan stops at the line that it finds, so lines behind it, and those above the start, have no influence.
-/

namespace ContractAudit.Scope

open Text

/-- From the first index to the second a brace is opened, and at least as many braces are closed as opened. -/
structure ClosesAt (lines : List Line) (first index : Nat) : Prop where
  opened : ∃ line ∈ itemsBetween first index lines, opening ∈ line
  balanced :
    (itemsBetween first index lines).flatten.count opening ≤ (itemsBetween first index lines).flatten.count closing

/-- The indexes at which a block that starts at the given index may end. -/
def closings (lines : List Line) (first : Nat) : Set Nat :=
  {index | first ≤ index ∧ index < lines.length ∧ ClosesAt lines first index}

variable {lines others : List Line} {first index found : Nat} {start : Int}

/-- Closing between two indexes is what the scan tests line by line. -/
theorem closesAt_iff_closed : ClosesAt lines first index ↔ Closed 0 false (itemsBetween first index lines) := by
  have hopened : (∃ line ∈ itemsBetween first index lines, opening ∈ line) ↔
      false = true ∨ opening ∈ (itemsBetween first index lines).flatten := by
    rw [List.mem_flatten, or_iff_right Bool.false_ne_true]
  constructor
  · rintro ⟨opened, balanced⟩
    refine ⟨hopened.mp opened, ?_⟩
    unfold depthChange
    omega
  · rintro ⟨opened, balanced⟩
    refine ⟨hopened.mpr opened, ?_⟩
    unfold depthChange at balanced
    omega

/-- Counted from the start of the block, the indexes at which it may end are those that the scan looks for. -/
theorem add_mem_closings_iff {count : Nat} :
    first + count ∈ closings lines first ↔
      count < (lines.drop first).length ∧ Closed 0 false ((lines.drop first).take (count + 1)) := by
  have hitems : itemsBetween first (first + count) lines = (lines.drop first).take (count + 1) := by
    rw [itemsBetween, Nat.add_assoc, Nat.add_sub_cancel_left]
  have hlength : first + count < lines.length ↔ count < (lines.drop first).length := by
    rw [List.length_drop]
    omega
  rw [← hitems, ← hlength, ← closesAt_iff_closed]
  exact and_iff_right (Nat.le_add_right first count)

/-- The scan finds the least of the indexes at which the block may end. -/
theorem closingLine?_eq_some_iff_isLeast :
    closingLine? 0 false first (lines.drop first) = some found ↔ IsLeast (closings lines first) found := by
  rw [closingLine?_eq_some_iff]
  constructor
  · rintro ⟨count, hcount, rfl, hclosed, hleast⟩
    refine ⟨add_mem_closings_iff.mpr ⟨hcount, hclosed⟩, fun index hindex ↦ ?_⟩
    obtain ⟨fewer, rfl⟩ := Nat.exists_eq_add_of_le hindex.1
    by_contra hbefore
    exact hleast fewer (by omega) (add_mem_closings_iff.mp hindex).2
  · rintro ⟨hfound, hleast⟩
    obtain ⟨count, rfl⟩ := Nat.exists_eq_add_of_le hfound.1
    obtain ⟨hcount, hclosed⟩ := add_mem_closings_iff.mp hfound
    refine ⟨count, hcount, rfl, hclosed, fun fewer hfewer hearlier ↦ ?_⟩
    have hle := hleast (add_mem_closings_iff.mpr ⟨Nat.lt_trans hfewer hcount, hearlier⟩)
    omega

/-- The scan finds no line exactly if the block may end nowhere. -/
theorem closingLine?_eq_none_iff :
    closingLine? 0 false first (lines.drop first) = none ↔ closings lines first = ∅ := by
  constructor
  · intro hnone
    rw [Set.eq_empty_iff_forall_notMem]
    intro index hindex
    obtain ⟨count, rfl⟩ := Nat.exists_eq_add_of_le hindex.1
    obtain ⟨hcount, hclosed⟩ := add_mem_closings_iff.mp hindex
    have hsome : ∃ found, closingLine? 0 false first (lines.drop first) = some found :=
      exists_closingLine?_of_closed hcount hclosed
    rw [hnone] at hsome
    obtain ⟨found, ⟨⟩⟩ := hsome
  · intro hempty
    rw [Option.eq_none_iff_forall_ne_some]
    intro found hfound
    have hmem := (closingLine?_eq_some_iff_isLeast.mp hfound).1
    rw [hempty] at hmem
    exact hmem

theorem blockEnd_eq_of_clampIndex (hfirst : clampIndex lines.length start = first) :
    blockEnd lines start = (closingLine? 0 false first (lines.drop first)).getD (lines.length - 1) := by
  rw [← hfirst, blockEnd]

/-- A block that ends because it closes ends there among all lines that have the same lines from its start to its
end. -/
theorem blockEnd_of_isLeast (closes : IsLeast (closings lines first) found)
    (same : AgreeBetween first found lines others) (hfirst : clampIndex others.length start = first) :
    blockEnd others start = found := by
  have hfound := closingLine?_of_agree same (closingLine?_eq_some_iff_isLeast.mpr closes)
  rw [blockEnd_eq_of_clampIndex hfirst, hfound, Option.getD_some]

theorem lt_length_of_agree (same : AgreeBetween first found lines others) (hle : first ≤ found)
    (valid : first < lines.length) : first < others.length := by
  have hline := same first (Nat.le_refl first) hle
  rw [List.getElem?_eq_getElem valid] at hline
  exact (List.getElem?_eq_some_iff.mp hline.symm).1

/-- A block ends in the valid indexes at or after the one nearest to its start. It ends at the first line at which it
closes, and then it ends there in every list with the same lines from that index to there, read from that index or from
a start to which it is the nearest; or it closes nowhere and ends with the last line. -/
theorem blockEnd_first_closing (lines : List Line) (nonempty : lines ≠ []) (start : Int) :
    ∃ first : Nat, first = max 0 (min start (lines.length - 1)) ∧
      first ≤ blockEnd lines start ∧ blockEnd lines start ≤ lines.length - 1 ∧
      (IsLeast (closings lines first) (blockEnd lines start) ∧
          (∀ others, AgreeBetween first (blockEnd lines start) lines others →
            blockEnd others first = blockEnd lines start ∧
              (first = max 0 (min start (others.length - 1)) → blockEnd others start = blockEnd lines start)) ∨
        closings lines first = ∅ ∧ blockEnd lines start = lines.length - 1) := by
  have hclamp (length : Nat) (index : Int) : clampIndex length index = max 0 (min index (length - 1)) := by
    rw [clampIndex_eq]
    omega
  have hpos : 0 < lines.length := List.length_pos_iff.mpr nonempty
  refine ⟨clampIndex lines.length start, hclamp _ _, ?_⟩
  generalize hfirst : clampIndex lines.length start = first
  have hend := blockEnd_eq_of_clampIndex hfirst
  have hvalid : first < lines.length := by
    have h := hclamp lines.length start
    omega
  cases hclosing : closingLine? 0 false first (lines.drop first) with
  | some found =>
    have hleast := closingLine?_eq_some_iff_isLeast.mp hclosing
    rw [hclosing, Option.getD_some] at hend
    rw [hend]
    refine ⟨hleast.1.1, Nat.le_sub_one_of_lt hleast.1.2.1, Or.inl ⟨hleast, fun others same ↦ ⟨?_, fun hstart ↦ ?_⟩⟩⟩
    · exact blockEnd_of_isLeast hleast same (clampIndex_of_lt (lt_length_of_agree same hleast.1.1 hvalid))
    · apply blockEnd_of_isLeast hleast same
      have h := hclamp others.length start
      omega
  | none =>
    rw [hclosing, Option.getD_none] at hend
    rw [hend]
    exact ⟨Nat.le_sub_one_of_lt hvalid, Nat.le_refl _, Or.inr ⟨closingLine?_eq_none_iff.mp hclosing, rfl⟩⟩

def strayCloser : List Line := ["\x7d".toList, "f() \x7b".toList, "g();".toList, "\x7b".toList]

/-- The first brace makes up for the second one, so the block ends where it is opened, whatever comes behind. -/
theorem blockEnd_first_closing_strayCloser :
    blockEnd strayCloser (-5) = 1 ∧ IsLeast (closings strayCloser 0) 1 ∧
      ∀ behind, blockEnd (strayCloser.take 2 ++ behind) (-5) = 1 := by
  have hend : blockEnd strayCloser (-5) = 1 := by decide
  obtain ⟨first, hfirst, -, -, ⟨hleast, hlocal⟩ | ⟨-, hlast⟩⟩ :=
    blockEnd_first_closing strayCloser (List.cons_ne_nil _ _) (-5)
  · obtain rfl : first = 0 := by
      rw [max_eq_left (by omega)] at hfirst
      exact Int.ofNat_eq_zero.mp hfirst
    rw [hend] at hleast hlocal
    refine ⟨hend, hleast, fun behind ↦ (hlocal _ ?_).2 ?_⟩
    · intro index _ hindex
      rw [List.getElem?_append_left (Nat.lt_succ_of_le hindex), List.getElem?_take_of_lt (Nat.lt_succ_of_le hindex)]
    · rw [max_eq_left (by omega)]
      rfl
  · rw [hend] at hlast
    cases hlast

end ContractAudit.Scope
