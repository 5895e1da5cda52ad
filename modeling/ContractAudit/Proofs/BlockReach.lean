import ContractAudit.Proofs.OpenBraces
import ContractAudit.Rule.SelfDestruct

/-!
# How far a block reaches

The start of a block is found by a scan backwards over characters, its end by a scan forwards that counts the braces of
whole lines. Between the brace at which the first scan stops and the place where it started the braces are balanced,
and nowhere on the way are more of them closed than opened. So the second scan does not end the block before that
place, unless the line of the brace closes blocks of earlier lines in front of it.
-/

namespace ContractAudit.Scope

open Text

/-! ## Depth -/

@[simp] theorem depthChange_nil : depthChange [] = 0 := rfl

/-- The surplus of opening braces adds up. -/
theorem depthChange_append (first second : Line) :
    depthChange (first ++ second) = depthChange first + depthChange second := by
  unfold depthChange
  rw [List.count_append, List.count_append]
  omega

theorem depthChange_reverse (line : Line) : depthChange line.reverse = depthChange line := by
  unfold depthChange
  rw [List.count_reverse, List.count_reverse]

theorem depthChange_opening_cons (line : Line) : depthChange (opening :: line) = depthChange line + 1 := by
  have h := depthChange_append [opening] line
  have hone : depthChange [opening] = 1 := by decide
  rw [List.singleton_append] at h
  omega

theorem depthChange_closing_cons (line : Line) : depthChange (closing :: line) = depthChange line - 1 := by
  have h := depthChange_append [closing] line
  have hone : depthChange [closing] = -1 := by decide
  rw [List.singleton_append] at h
  omega

theorem depthChange_cons_of_ne {c : Char} (notOpening : c ≠ opening) (notClosing : c ≠ closing) (line : Line) :
    depthChange (c :: line) = depthChange line := by
  unfold depthChange
  rw [List.count_cons_of_ne notOpening, List.count_cons_of_ne notClosing]

/-! ## The end of a block -/

/-- Whether a brace was opened and the lines take the depth back to zero or below. -/
def Closed (depth : Int) (opened : Bool) (lines : List Line) : Prop :=
  (opened = true ∨ opening ∈ lines.flatten) ∧ depth + depthChange lines.flatten ≤ 0

theorem closed_cons (depth : Int) (opened : Bool) (line : Line) (lines : List Line) :
    Closed depth opened (line :: lines) ↔
      Closed (depth + depthChange line) (opened || line.contains opening) lines := by
  unfold Closed
  rw [List.flatten_cons, depthChange_append, List.mem_append, Bool.or_eq_true, List.contains_iff_mem, or_assoc,
    Int.add_assoc]

/-- The scan for the end of a block finds the first line up to which the block is closed. -/
theorem closingLine?_eq_some_iff {depth : Int} {opened : Bool} {first found : Nat} {lines : List Line} :
    closingLine? depth opened first lines = some found ↔
      ∃ count < lines.length, found = first + count ∧ Closed depth opened (lines.take (count + 1)) ∧
        ∀ fewer < count, ¬ Closed depth opened (lines.take (fewer + 1)) := by
  induction lines generalizing depth opened first with
  | nil => simp [closingLine?]
  | cons line lines ih =>
    have hfirst : Closed depth opened ((line :: lines).take 1) ↔
        ((opened || line.contains opening) && decide (depth + depthChange line ≤ 0)) = true := by
      rw [List.take_succ_cons, closed_cons]
      simp [Closed]
    rw [closingLine?]
    by_cases hclosed : Closed depth opened ((line :: lines).take 1)
    · rw [if_pos (hfirst.mp hclosed)]
      constructor
      · intro h
        cases h
        exact ⟨0, by simp, rfl, hclosed, by simp⟩
      · rintro ⟨count, -, rfl, -, hleast⟩
        have hzero : count = 0 := by
          by_contra hne
          exact hleast 0 (by omega) hclosed
        rw [hzero, Nat.add_zero]
    · rw [if_neg fun h ↦ hclosed (hfirst.mpr h), ih]
      constructor
      · rintro ⟨count, hcount, rfl, hlater, hleast⟩
        refine ⟨count + 1, by simpa using hcount, by omega, ?_, ?_⟩
        · rwa [List.take_succ_cons, closed_cons]
        · intro fewer hfewer
          cases fewer with
          | zero => exact hclosed
          | succ fewer =>
            rw [List.take_succ_cons, closed_cons]
            exact hleast fewer (by omega)
      · rintro ⟨count, hcount, rfl, hlater, hleast⟩
        cases count with
        | zero => exact absurd hlater hclosed
        | succ count =>
          rw [List.take_succ_cons, closed_cons] at hlater
          refine ⟨count, by simpa using hcount, by omega, hlater, ?_⟩
          intro fewer hfewer h
          apply hleast (fewer + 1) (by omega)
          rwa [List.take_succ_cons, closed_cons]

theorem clampIndex_of_lt {length index : Nat} (valid : index < length) : clampIndex length index = index := by
  unfold clampIndex
  omega

/-- A block reaches every line up to which more braces are opened than closed. -/
theorem le_blockEnd {lines : List Line} {start index : Nat} (hstart : start ≤ index) (valid : index < lines.length)
    (h : ∀ count, start + count < index → 0 < depthChange ((lines.drop start).take (count + 1)).flatten) :
    index ≤ blockEnd lines start := by
  simp only [blockEnd, clampIndex_of_lt (Nat.lt_of_le_of_lt hstart valid)]
  cases hclosing : closingLine? 0 false start (lines.drop start) with
  | none =>
    rw [Option.getD_none]
    omega
  | some found =>
    obtain ⟨count, -, rfl, hclosed, -⟩ := closingLine?_eq_some_iff.mp hclosing
    rw [Option.getD_some]
    by_contra hbefore
    have hopen := h count (by omega)
    have hdepth := hclosed.2
    omega

/-! ## The brace at which the scan backwards stops -/

/-- Characters, read backwards, over which a scan goes from a depth to zero without stopping. Read forwards, they never
close more braces than they have opened. -/
structure Passed (depth : Nat) (between : List Char) : Prop where
  total : depthChange between = depth
  later : ∀ later, later <:+ between → 0 ≤ depthChange later

theorem Passed.nil : Passed 0 [] where
  total := rfl
  later later hlater := by simp [List.suffix_nil.mp hlater]

theorem Passed.cons {depth before : Nat} {c : Char} {between : List Char} (passed : Passed before between)
    (total : depthChange (c :: between) = depth) : Passed depth (c :: between) where
  total := total
  later later hlater := by
    rw [List.suffix_cons_iff] at hlater
    cases hlater with
    | inl hall =>
      rw [hall, total]
      exact Int.natCast_nonneg depth
    | inr hlater => exact passed.later later hlater

/-- The scan backwards stops at an opening brace. What it passed over before closes exactly what it opens. -/
theorem exists_of_openBrace?_eq_some {α : Type} {depth : Nat} {text : List (α × Char)} {place : α}
    (h : openBrace? depth text = some place) :
    ∃ between before, text = between ++ (place, opening) :: before ∧ Passed depth (between.map Prod.snd) := by
  fun_induction openBrace? depth text with
  | case1 depth => cases h
  | case2 depth first before ih =>
    obtain ⟨between, rest, rfl, passed⟩ := ih h
    refine ⟨(first, closing) :: between, rest, rfl, passed.cons ?_⟩
    rw [depthChange_closing_cons, passed.total]
    omega
  | case3 first before =>
    cases h
    exact ⟨[], before, rfl, Passed.nil⟩
  | case4 first before depth _ ih =>
    obtain ⟨between, rest, rfl, passed⟩ := ih h
    refine ⟨(first, opening) :: between, rest, rfl, passed.cons ?_⟩
    rw [depthChange_opening_cons, passed.total]
    omega
  | case5 depth first c before notClosing notOpening ih =>
    obtain ⟨between, rest, rfl, passed⟩ := ih h
    refine ⟨(first, c) :: between, rest, rfl, passed.cons ?_⟩
    rw [depthChange_cons_of_ne notOpening notClosing, passed.total]

/-! ## Places in a text -/

def linePlaces (entry : Line × Nat) : List ((Nat × Nat) × Char) :=
  entry.1.zipIdx.map fun (c, column) ↦ ((entry.2, column), c)

def places (lines : List Line) : List ((Nat × Nat) × Char) := (lines.zipIdx.map linePlaces).flatten

/-- The line and the column of the innermost brace that is open before a column of a line, or at its end. -/
def enclosingBrace? (lines : List Line) (index : Int) (column : Option Int) : Option (Nat × Nat) :=
  openBrace? 0 (places (textBefore lines (clampIndex lines.length index) column)).reverse

/-- The text before the innermost open brace, on the line of that brace. -/
def textBeforeBrace (lines : List Line) (index : Int) (column : Option Int) : List Char :=
  ((enclosingBrace? lines index column).map fun (line, brace) ↦ (lines.getD line []).take brace).getD []

theorem map_linePlaces {β : Type} (f : Nat → Char → β) (entry : Line × Nat) :
    (linePlaces entry).map (fun place ↦ f place.1.1 place.2) = entry.1.map (f entry.2) := by
  calc
    _ = (entry.1.zipIdx.map Prod.fst).map (f entry.2) := by rw [linePlaces, List.map_map, List.map_map]; rfl
    _ = entry.1.map (f entry.2) := by rw [List.zipIdx_map_fst]

theorem map_places {β : Type} (f : Nat → Char → β) (lines : List Line) (number : Nat) :
    ((lines.zipIdx number).map linePlaces).flatten.map (fun place ↦ f place.1.1 place.2) =
      ((lines.zipIdx number).map fun entry ↦ entry.1.map (f entry.2)).flatten := by
  rw [List.map_flatten, List.map_map]
  congr 2
  funext entry
  exact map_linePlaces f entry

theorem map_snd_places (lines : List Line) (number : Nat) :
    ((lines.zipIdx number).map linePlaces).flatten.map Prod.snd = lines.flatten := by
  calc
    _ = (((lines.zipIdx number).map Prod.fst).map (List.map id)).flatten := by
      rw [List.map_map]
      exact map_places (fun _ c ↦ c) lines number
    _ = lines.flatten := by rw [List.zipIdx_map_fst, List.map_id_fun, List.map_id]

/-- The scan looks at the characters only, so their places may be renamed. -/
theorem openBrace?_map {α β : Type} (f : α → β) (depth : Nat) (text : List (α × Char)) :
    openBrace? depth (text.map fun entry ↦ (f entry.1, entry.2)) = (openBrace? depth text).map f := by
  fun_induction openBrace? depth text with
  | case1 depth => rfl
  | case2 depth place before ih => exact ih
  | case3 place before => rfl
  | case4 place before depth _ ih => exact ih
  | case5 depth place c before notClosing notOpening ih =>
    rw [List.map_cons, ← ih]
    exact openBrace?_of_ne depth (f place) _ notOpening notClosing

/-- The scan stops on the line that it gives. -/
theorem map_fst_enclosingBrace? (lines : List Line) (index : Int) (column : Option Int) :
    (enclosingBrace? lines index column).map Prod.fst = enclosingBlock? lines index column := by
  rw [enclosingBrace?, enclosingBlock?, ← openBrace?_map, List.map_reverse]
  congr 2
  exact map_places Prod.mk _ 0

theorem exists_of_map_zipIdx_eq {α β : Type} {label : α × Nat → β} {items : List α} {number : Nat}
    {before after : List β} {entry : β} (h : (items.zipIdx number).map label = before ++ entry :: after) :
    ∃ earlier item later, items = earlier ++ item :: later ∧ label (item, number + earlier.length) = entry ∧
      (later.zipIdx (number + earlier.length + 1)).map label = after := by
  obtain ⟨first, second, hitems, -, hsecond⟩ := List.map_eq_append_iff.mp h
  obtain ⟨earlier, others, rfl, -, rfl⟩ := List.zipIdx_eq_append_iff.mp hitems
  obtain ⟨labelled, rest, hrest, rfl, rfl⟩ := List.map_eq_cons_iff.mp hsecond
  obtain ⟨item, later, rfl, rfl, rfl⟩ := List.zipIdx_eq_cons_iff.mp hrest
  exact ⟨earlier, item, later, rfl, rfl, rfl⟩

/-- An item of joined lists stands in one of them. Lists before that one may be empty. -/
theorem exists_of_flatten_eq {α : Type} {lists : List (List α)} {before after : List α} {entry : α}
    (h : lists.flatten = before ++ entry :: after) :
    ∃ earlier left right later, lists = earlier ++ (left ++ entry :: right) :: later ∧
      after = right ++ later.flatten := by
  rcases List.flatten_eq_append_iff.mp h with
    ⟨earlier, lists, rfl, -, hlists⟩ | ⟨earlier, left, c, right, later, rfl, -, hright⟩
  · obtain ⟨empty, right, later, rfl, -, rfl⟩ := List.flatten_eq_cons_iff.mp hlists.symm
    exact ⟨earlier ++ empty, [], right, later, by simp, rfl⟩
  · rw [List.cons_append, List.cons.injEq] at hright
    obtain ⟨rfl, rfl⟩ := hright
    exact ⟨earlier, left, right, later, rfl, rfl⟩

/-- The place of a character says where the lines are to be cut so that it stands between the parts. -/
theorem exists_of_places_eq {lines : List Line} {before after : List ((Nat × Nat) × Char)} {place : Nat × Nat}
    {c : Char} (h : places lines = before ++ (place, c) :: after) :
    ∃ earlier left right later, lines = earlier ++ (left ++ c :: right) :: later ∧
      place = (earlier.length, left.length) ∧ after.map Prod.snd = right ++ later.flatten := by
  obtain ⟨lists, front, back, others, hlists, rfl⟩ := exists_of_flatten_eq h
  obtain ⟨earlier, line, later, rfl, hline, rfl⟩ := exists_of_map_zipIdx_eq hlists
  obtain ⟨left, d, right, rfl, hplace, rfl⟩ := exists_of_map_zipIdx_eq hline
  cases hplace
  refine ⟨earlier, left, right, later, rfl, by simp, ?_⟩
  rw [List.map_append, map_snd_places, List.map_map]
  exact congrArg (· ++ later.flatten) (List.zipIdx_map_fst _ right)

/-! ## The reach of a block -/

theorem take_drop_eq_of_take_eq {α : Type} {items others : List α} {bound : Nat}
    (same : items.take bound = others.take bound) {start count : Nat} (h : start + count ≤ bound) :
    (items.drop start).take count = (others.drop start).take count := by
  have hsame : items.take (start + count) = others.take (start + count) := by
    calc
      items.take (start + count) = (items.take bound).take (start + count) := by rw [List.take_take, Nat.min_eq_left h]
      _ = (others.take bound).take (start + count) := by rw [same]
      _ = others.take (start + count) := by rw [List.take_take, Nat.min_eq_left h]
  rw [List.take_drop, List.take_drop, hsame]

/-- Only the last line before a place can be cut. -/
theorem take_textBefore {lines : List Line} {index : Nat} (valid : index < lines.length) (column : Option Int) :
    (textBefore lines index column).take index = lines.take index := by
  cases column with
  | none =>
    rw [textBefore, List.take_take]
    congr 1
    omega
  | some column =>
    rw [textBefore]
    apply List.take_left'
    rw [List.length_take]
    omega

theorem length_textBefore {lines : List Line} {index : Nat} (valid : index < lines.length) (column : Option Int) :
    (textBefore lines index column).length = index + 1 := by
  cases column with
  | none =>
    rw [textBefore, List.length_take]
    omega
  | some column =>
    rw [textBefore, List.head?_drop, List.getElem?_eq_getElem valid]
    simp
    omega

/-- The brace at which the scan backwards stops cuts the lines that it reads in two. What follows the brace never closes
more braces than it has opened. -/
theorem exists_of_enclosingBrace?_eq_some {lines : List Line} {index : Int} {column : Option Int} {start brace : Nat}
    (h : enclosingBrace? lines index column = some (start, brace)) :
    ∃ earlier left right later,
      textBefore lines (clampIndex lines.length index) column = earlier ++ (left ++ opening :: right) :: later ∧
        earlier.length = start ∧ left.length = brace ∧
        ∀ text, text <+: right ++ later.flatten → 0 ≤ depthChange text := by
  obtain ⟨between, before, hread, passed⟩ := exists_of_openBrace?_eq_some h
  rw [List.reverse_eq_iff, List.reverse_append, List.reverse_cons, List.append_assoc, List.singleton_append] at hread
  obtain ⟨earlier, left, right, later, hlines, hplace, hafter⟩ := exists_of_places_eq hread
  cases hplace
  refine ⟨earlier, left, right, later, hlines, rfl, rfl, fun text htext ↦ ?_⟩
  have hsuffix : text.reverse <:+ between.map Prod.snd := by
    rw [← List.reverse_reverse (between.map Prod.snd), List.reverse_suffix, ← List.map_reverse, hafter]
    exact htext
  rw [← depthChange_reverse]
  exact passed.later _ hsuffix

/-- From the line of the brace on, every line before the place ends inside the block, if that line does not close more
in front of the brace than it opens there. -/
theorem depthChange_pos {lines : List Line} {index : Nat} (valid : index < lines.length) {column : Option Int}
    {start brace : Nat} (h : enclosingBrace? lines index column = some (start, brace))
    (level : 0 ≤ depthChange ((lines.getD start []).take brace)) {count : Nat} (hcount : start + count < index) :
    0 < depthChange ((lines.drop start).take (count + 1)).flatten := by
  obtain ⟨earlier, left, right, later, htext, rfl, rfl, hafter⟩ := exists_of_enclosingBrace?_eq_some h
  rw [clampIndex_of_lt valid] at htext
  have hlines : (lines.drop earlier.length).take (count + 1) = (left ++ opening :: right) :: later.take count := by
    rw [take_drop_eq_of_take_eq (take_textBefore valid column).symm hcount, htext, List.drop_left, List.take_succ_cons]
  have hleft : 0 ≤ depthChange left := by
    have hline : lines[earlier.length]? = some (left ++ opening :: right) := by
      have hfirst := congrArg List.head? hlines
      rwa [List.head?_take, if_neg (Nat.succ_ne_zero count), List.head?_drop, List.head?_cons] at hfirst
    rw [List.getD_eq_getElem?_getD, hline, Option.getD_some, List.take_left] at level
    exact level
  have hlater : 0 ≤ depthChange (right ++ (later.take count).flatten) := by
    apply hafter
    rw [List.prefix_append_right_inj]
    exact ⟨(later.drop count).flatten, by rw [← List.flatten_append, List.take_append_drop]⟩
  rw [hlines, List.flatten_cons, List.append_assoc, depthChange_append, List.cons_append, depthChange_opening_cons]
  omega

/-- The block that is open before a place reaches that place, unless its first line closes blocks of earlier lines in
front of its brace. The guard of a self-destruction outside of every function is then looked for in the lines of that
block and nowhere else. -/
theorem enclosingBlock_reaches (lines : List Line) (index : Nat) (valid : index < lines.length) (column : Option Int)
    (start : Nat) (encloses : enclosingBlock? lines index column = some start)
    (level : (textBeforeBrace lines index column).count closing ≤ (textBeforeBrace lines index column).count opening) :
    start ≤ index ∧ index ≤ blockEnd lines start ∧
      ∀ place : Nat, column = some (place : Int) →
        (∀ header, enclosingFunction? lines index = some header → blockEnd lines header < index) →
        Rule.SelfDestruct.guardedText lines index place =
          joinLines ((lines.drop start).take (blockEnd lines start + 1 - start)) := by
  obtain ⟨⟨start, brace⟩, hbrace, rfl⟩ := Option.map_eq_some_iff.mp ((map_fst_enclosingBrace? _ _ _).trans encloses)
  have hlevel : 0 ≤ depthChange ((lines.getD start []).take brace) := by
    rw [textBeforeBrace, hbrace] at level
    exact Int.sub_nonneg_of_le (Int.ofNat_le.mpr level)
  have hstart : start ≤ index := by
    obtain ⟨earlier, left, right, later, htext, rfl, -, -⟩ := exists_of_enclosingBrace?_eq_some hbrace
    have hlength := length_textBefore valid column
    rw [clampIndex_of_lt valid] at htext
    rw [htext, List.length_append, List.length_cons] at hlength
    omega
  have hend : index ≤ blockEnd lines start :=
    le_blockEnd hstart valid fun count hcount ↦ depthChange_pos valid hbrace hlevel hcount
  refine ⟨hstart, hend, fun place hcolumn outside ↦ ?_⟩
  have hguard : Rule.SelfDestruct.guardStart lines index place = start := by
    have hblock : Rule.SelfDestruct.guardStart.blockStart lines index place = start := by
      rw [Rule.SelfDestruct.guardStart.blockStart, ← hcolumn, encloses, Option.getD_some]
    unfold Rule.SelfDestruct.guardStart
    split
    · next header hheader => rw [if_pos (outside header hheader), hblock]
    · exact hblock
  simp only [Rule.SelfDestruct.guardedText, hguard, Nat.max_eq_left hend]

def namelessFunction : List Line :=
  ["contract A \x7b".toList, "  function () \x7b if (x) \x7b y(); \x7d".toList, "    z();".toList,
    "    selfdestruct(o); \x7d".toList, "\x7d".toList]

theorem enclosingBlock_reaches_namelessFunction :
    enclosingBlock? namelessFunction (3 : Nat) (some (4 : Nat)) = some 1 ∧
      textBeforeBrace namelessFunction (3 : Nat) (some (4 : Nat)) = "  function () ".toList ∧
      1 ≤ 3 ∧ 3 ≤ blockEnd namelessFunction (1 : Nat) ∧
      enclosingFunction? namelessFunction (3 : Nat) = none ∧
      Rule.SelfDestruct.guardedText namelessFunction 3 4 =
        joinLines ((namelessFunction.drop 1).take (blockEnd namelessFunction (1 : Nat) + 1 - 1)) := by
  have hblock : enclosingBlock? namelessFunction (3 : Nat) (some (4 : Nat)) = some 1 := by decide
  have hbrace : textBeforeBrace namelessFunction (3 : Nat) (some (4 : Nat)) = "  function () ".toList := by decide
  have hheader : enclosingFunction? namelessFunction (3 : Nat) = none := by decide
  have hreach := enclosingBlock_reaches namelessFunction 3 (by decide) _ 1 hblock (by rw [hbrace]; decide)
  refine ⟨hblock, hbrace, hreach.1, hreach.2.1, hheader, hreach.2.2 4 rfl fun header h ↦ ?_⟩
  rw [hheader] at h
  cases h

/-- A line that closes one block before it opens another ends both for the scan forwards. -/
example :
    enclosingBlock? ["a \x7b".toList, "\x7d b \x7b".toList, "c;".toList] 2 none = some 1 ∧
      blockEnd ["a \x7b".toList, "\x7d b \x7b".toList, "c;".toList] 1 = 1 := by decide

end ContractAudit.Scope
