import ContractAudit.Proofs.BlockReach
import ContractAudit.Proofs.CatalogueLayout
import Mathlib.Data.Nat.Find

/-!
# Guards of the own function

A self-destruction is judged by the lines of the function around it, when that function has a header and its braces
balance. The search for the header goes backwards and stops at the nearest one; the search for the end goes forwards and
stops at the first balance. So neither looks at a line outside of the function, and what stands before or behind it,
guards of neighbours, other headers or stray braces, has no influence on the verdict.
-/

namespace ContractAudit

/-! ## Lists that agree between two indexes -/

namespace Text

/-- The items from one index to another, both included. -/
def itemsBetween {α : Type} (first last : Nat) (items : List α) : List α := (items.drop first).take (last + 1 - first)

/-- The lists have the same items at the indexes from one to another, both included. -/
def AgreeBetween {α : Type} (first last : Nat) (items others : List α) : Prop :=
  ∀ index, first ≤ index → index ≤ last → items[index]? = others[index]?

variable {α : Type} {first last : Nat} {items others : List α}

theorem AgreeBetween.take_drop (h : AgreeBetween first last items others) {count : Nat}
    (hcount : first + count ≤ last + 1) : (items.drop first).take count = (others.drop first).take count := by
  apply List.ext_getElem?
  intro index
  rw [List.getElem?_take, List.getElem?_take, List.getElem?_drop, List.getElem?_drop]
  split
  · exact h _ (by omega) (by omega)
  · rfl

theorem AgreeBetween.itemsBetween (h : AgreeBetween first last items others) :
    itemsBetween first last items = itemsBetween first last others := by
  by_cases hle : first ≤ last
  · exact h.take_drop (by omega)
  · rw [Text.itemsBetween, Text.itemsBetween, Nat.sub_eq_zero_of_le (by omega), List.take_zero, List.take_zero]

end Text

/-! ## The header and the end of a function -/

namespace Scope

open Text

/-- An item that passes the test has a last index. -/
theorem exists_lastIndex? {α : Type} {test : α → Bool} {items : List α} {item : α} (hmem : item ∈ items)
    (holds : test item = true) : ∃ index, lastIndex? test items = some index := by
  have hsome : (lastIndex? test items).isSome = true := by
    rw [lastIndex?, Option.isSome_map, List.findIdx?_isSome, List.any_reverse]
    exact List.any_eq_true.mpr ⟨item, hmem, holds⟩
  exact Option.isSome_iff_exists.mp hsome

theorem lastIndex?_concat {α : Type} (test : α → Bool) (items : List α) (last : α) :
    lastIndex? test (items ++ [last]) = if test last then some items.length else lastIndex? test items := by
  rw [lastIndex?, lastIndex?, List.reverse_concat, List.findIdx?_cons, List.length_append, List.length_singleton]
  split
  · rfl
  · rw [Option.map_map]
    congr 1
    funext index
    simp only [Function.comp_apply]
    omega

/-- The last index passes the test, and none behind it does. The induction is on the list from its end. -/
theorem lastIndex?_eq_some_iff {α : Type} {test : α → Bool} {items : List α} {index : Nat} :
    lastIndex? test items = some index ↔
      (∃ item, items[index]? = some item ∧ test item = true) ∧
        ∀ place item, items[place]? = some item → test item = true → place ≤ index := by
  induction items using List.reverseRecOn with
  | nil => simp [lastIndex?]
  | append_singleton items last ih =>
    have hplace {place : Nat} {item : α} (h : (items ++ [last])[place]? = some item) : place ≤ items.length := by
      have hlength := (List.getElem?_eq_some_iff.mp h).1
      rw [List.length_append, List.length_singleton] at hlength
      omega
    rw [lastIndex?_concat]
    by_cases hlast : test last = true
    · rw [if_pos hlast, Option.some_inj]
      constructor
      · rintro rfl
        exact ⟨⟨last, List.getElem?_concat_length, hlast⟩, fun place item hitem _ ↦ hplace hitem⟩
      · rintro ⟨⟨item, hitem, -⟩, hle⟩
        exact Nat.le_antisymm (hle _ last List.getElem?_concat_length hlast) (hplace hitem)
    · have hbefore {place : Nat} {item : α} (holds : test item = true) :
          (items ++ [last])[place]? = some item ↔ items[place]? = some item := by
        constructor
        · intro hitem
          rcases Nat.lt_or_eq_of_le (hplace hitem) with hlt | rfl
          · rwa [List.getElem?_append_left hlt] at hitem
          · rw [List.getElem?_concat_length] at hitem
            cases hitem
            exact absurd holds hlast
        · intro hitem
          rw [List.getElem?_append_left (List.getElem?_eq_some_iff.mp hitem).1, hitem]
      rw [if_neg hlast, ih]
      constructor
      · rintro ⟨⟨item, hitem, holds⟩, hle⟩
        exact ⟨⟨item, (hbefore holds).mpr hitem, holds⟩, fun place other hother hholds ↦
          hle place other ((hbefore hholds).mp hother) hholds⟩
      · rintro ⟨⟨item, hitem, holds⟩, hle⟩
        exact ⟨⟨item, (hbefore holds).mp hitem, holds⟩, fun place other hother hholds ↦
          hle place other ((hbefore hholds).mpr hother) hholds⟩

/-- The nearest header is one at or above the line, and there is none between it and the line. -/
theorem enclosingFunction?_eq_some_iff {lines : List Line} {index header : Nat} :
    enclosingFunction? lines index = some header ↔
      header ≤ index ∧ (∃ line, lines[header]? = some line ∧ functionHeader.occursIn line = true) ∧
        ∀ place line, place ≤ index → lines[place]? = some line → functionHeader.occursIn line = true →
          place ≤ header := by
  have hindex : ¬ (index : Int) < 0 := by omega
  have htake (place : Nat) (line : Line) :
      (lines.take (index + 1))[place]? = some line ↔ place ≤ index ∧ lines[place]? = some line := by
    rw [List.getElem?_take, Option.ite_none_right_eq_some, Nat.lt_succ_iff]
  rw [enclosingFunction?, if_neg hindex, Int.toNat_natCast, lastIndex?_eq_some_iff]
  simp only [htake]
  constructor
  · rintro ⟨⟨line, ⟨hle, hline⟩, hoccurs⟩, hlast⟩
    exact ⟨hle, ⟨line, hline, hoccurs⟩, fun place other hplace hother ↦ hlast place other ⟨hplace, hother⟩⟩
  · rintro ⟨hle, ⟨line, hline, hoccurs⟩, hlast⟩
    exact ⟨⟨line, ⟨hle, hline⟩, hoccurs⟩, fun place other hother ↦ hlast place other hother.1 hother.2⟩

/-- A block that is closed somewhere has a line at which it closes. -/
theorem exists_closingLine?_of_closed {depth : Int} {opened : Bool} {first count : Nat} {lines : List Line}
    (hcount : count < lines.length) (closed : Closed depth opened (lines.take (count + 1))) :
    ∃ found, closingLine? depth opened first lines = some found := by
  classical
  have hexists : ∃ count, Closed depth opened (lines.take (count + 1)) := ⟨count, closed⟩
  have hle : Nat.find hexists ≤ count := Nat.find_min' hexists closed
  exact ⟨first + Nat.find hexists, closingLine?_eq_some_iff.mpr
    ⟨Nat.find hexists, by omega, rfl, Nat.find_spec hexists, fun fewer hfewer ↦ Nat.find_min hexists hfewer⟩⟩

/-- Where the braces of a block balance at its end, the scan has found that end and not the end of the lines. -/
theorem closingLine?_of_blockEnd {lines : List Line} {start stop : Nat} (valid : start < lines.length)
    (hend : blockEnd lines start = stop) (balanced : Closed 0 false (itemsBetween start stop lines)) :
    closingLine? 0 false start (lines.drop start) = some stop := by
  rw [blockEnd, clampIndex_of_lt valid] at hend
  cases hclosing : closingLine? 0 false start (lines.drop start) with
  | some found =>
    rw [hclosing, Option.getD_some] at hend
    rw [hend]
  | none =>
    rw [hclosing, Option.getD_none] at hend
    have hcount : stop - start < (lines.drop start).length := by
      rw [List.length_drop]
      omega
    rw [itemsBetween, Nat.sub_add_comm (by omega)] at balanced
    obtain ⟨found, hfound⟩ := exists_closingLine?_of_closed hcount balanced
    rw [hclosing] at hfound
    cases hfound

variable {lines others : List Line} {index header stop : Nat}

/-- Lines behind the place and above the header do not change which header is the nearest. -/
theorem enclosingFunction?_of_agree (same : AgreeBetween header stop lines others) (reaches : index ≤ stop)
    (nearest : enclosingFunction? lines index = some header) : enclosingFunction? others index = some header := by
  obtain ⟨hle, ⟨line, hline, hoccurs⟩, hlast⟩ := enclosingFunction?_eq_some_iff.mp nearest
  refine enclosingFunction?_eq_some_iff.mpr ⟨hle, ⟨line, ?_, hoccurs⟩, fun place other hplace hother hholds ↦ ?_⟩
  · rwa [← same header (Nat.le_refl _) (Nat.le_trans hle reaches)]
  · by_contra hbelow
    rw [← same place (by omega) (by omega)] at hother
    exact hbelow (hlast place other hplace hother hholds)

/-- The scan for the end of a block looks at no line behind that end. -/
theorem closingLine?_of_agree (same : AgreeBetween header stop lines others)
    (closes : closingLine? 0 false header (lines.drop header) = some stop) :
    closingLine? 0 false header (others.drop header) = some stop := by
  obtain ⟨count, hcount, rfl, hclosed, hleast⟩ := closingLine?_eq_some_iff.mp closes
  have htake {fewer : Nat} (hfewer : fewer ≤ count) :
      (lines.drop header).take (fewer + 1) = (others.drop header).take (fewer + 1) := same.take_drop (by omega)
  refine closingLine?_eq_some_iff.mpr ⟨count, ?_, rfl, ?_, fun fewer hfewer ↦ ?_⟩
  · rw [List.length_drop] at hcount ⊢
    have hlast := same (header + count) (Nat.le_add_right _ _) (Nat.le_refl _)
    rw [List.getElem?_eq_getElem (by omega)] at hlast
    have hlength := (List.getElem?_eq_some_iff.mp hlast.symm).1
    omega
  · rwa [← htake (Nat.le_refl count)]
  · rw [← htake (Nat.le_of_lt hfewer)]
    exact hleast fewer hfewer

/-- A block that closes by the balance of its braces closes at the same line among other lines around it. -/
theorem blockEnd_of_agree (same : AgreeBetween header stop lines others) (valid : header < lines.length)
    (ends : blockEnd lines header = stop) (balanced : Closed 0 false (itemsBetween header stop lines)) :
    blockEnd others header = stop := by
  have hcloses := closingLine?_of_agree same (closingLine?_of_blockEnd valid ends balanced)
  have hvalid : header < others.length := by
    obtain ⟨count, hcount, -⟩ := closingLine?_eq_some_iff.mp hcloses
    rw [List.length_drop] at hcount
    omega
  simp only [blockEnd, clampIndex_of_lt hvalid, hcloses, Option.getD_some]

end Scope

/-! ## The verdict on a self-destruction -/

namespace Rule.SelfDestruct

open Text

def isVerdict (finding : Finding) : Bool :=
  match finding.category with
  | .str category => category == byOwner.category || category == byAnyone.category
  | _ => false

/-- The findings at the line with an index that say who can destroy the contract. -/
def verdictsAt (index : Nat) (findings : List Finding) : List Finding :=
  (findings.filter fun finding ↦ finding.line = some (.ofIndex index)).filter isVerdict

/-- The verdict on a self-destruction in a function with the given lines. -/
def verdictIn (function : List Line) : Advice :=
  if ownerGuard.occursIn (joinLines function) then byOwner else byAnyone

theorem isVerdict_atLine_verdictIn (function : List Line) (sheet : Sheet) (index : Nat) :
    isVerdict ((verdictIn function).atLine sheet index) = true := by
  rw [verdictIn]
  split <;> rfl

variable {code : List Line} {index header stop : Nat}

/-- A function that reaches the call is all that is searched for a guard. -/
theorem guardedText_eq (nearest : Scope.enclosingFunction? code index = some header)
    (ends : Scope.blockEnd code header = stop) (reaches : index ≤ stop) (column : Nat) :
    guardedText code index column = joinLines (itemsBetween header stop code) := by
  have hstart : guardStart code index column = header := by
    rw [guardStart, nearest]
    exact if_neg (by omega)
  simp only [guardedText, hstart, ends, Nat.max_eq_left reaches]
  rfl

/-- The advice on a self-destruction is the one for its own function. -/
theorem lineAdvice_eq {line : Line} (destroys : destruction.occursIn line = true)
    (nearest : Scope.enclosingFunction? code index = some header) (ends : Scope.blockEnd code header = stop)
    (reaches : index ≤ stop) :
    lineAdvice code line index =
      verdictIn (itemsBetween header stop code) :: if deprecatedName.occursIn line then [deprecated] else [] := by
  obtain ⟨found, hfound⟩ := Option.isSome_iff_exists.mp destroys
  simp only [lineAdvice, hfound, guardedText_eq nearest ends reaches]
  rfl

/-- A line of the code with a self-destruction gets the verdict of its function and no other. -/
theorem verdictsAt_findings {sheet : Sheet} {line : Line} (atIndex : sheet.code[index]? = some line)
    (destroys : destruction.occursIn line = true) (nearest : Scope.enclosingFunction? sheet.code index = some header)
    (ends : Scope.blockEnd sheet.code header = stop) (reaches : index ≤ stop) :
    verdictsAt index (findings sheet) = [(verdictIn (itemsBetween header stop sheet.code)).atLine sheet index] := by
  rw [verdictsAt, findings_eq, Sheet.filter_line_mark, atIndex, Option.toList_some, List.flatMap_singleton,
    lineAdvice_eq destroys nearest ends reaches, List.map_cons, List.filter_cons, isVerdict_atLine_verdictIn,
    if_pos rfl]
  congr 1
  split <;> rfl

/-- A self-destruction is judged by its own function. If the nearest header above a line with one opens a block that
closes by the balance of its braces, at that line or behind it, then the line gets exactly one verdict: by the owner if
a guard occurs in the lines of the function, and by anyone otherwise. Every sheet and every source with the same lines
from the header to the end of the function gets that verdict too. -/
theorem own_function_decides (code : List Line) (index header stop : Nat) (line : Line)
    (atIndex : code[index]? = some line) (destroys : destruction.occursIn line = true)
    (nearest : Scope.enclosingFunction? code index = some header) (ends : Scope.blockEnd code header = stop)
    (balanced : Scope.Closed 0 false (itemsBetween header stop code)) (reaches : index ≤ stop) :
    (∀ sheet : Sheet, AgreeBetween header stop code sheet.code →
      verdictsAt index (findings sheet) = [(verdictIn (itemsBetween header stop code)).atLine sheet index]) ∧
    ∀ source : String, AgreeBetween header stop code (Sheet.ofSource source.toList).code →
      ∃ outcome, analyzer.check (.str source) = .ok outcome ∧
        verdictsAt index outcome.vulnerabilities =
          [(verdictIn (itemsBetween header stop code)).atLine (.ofSource source.toList) index] := by
  obtain ⟨hle, ⟨first, hfirst, -⟩, -⟩ := Scope.enclosingFunction?_eq_some_iff.mp nearest
  have hvalid : header < code.length := (List.getElem?_eq_some_iff.mp hfirst).1
  have hsheet (sheet : Sheet) (same : AgreeBetween header stop code sheet.code) :
      verdictsAt index (findings sheet) = [(verdictIn (itemsBetween header stop code)).atLine sheet index] := by
    rw [same.itemsBetween]
    apply verdictsAt_findings _ destroys
    · exact Scope.enclosingFunction?_of_agree same reaches nearest
    · exact Scope.blockEnd_of_agree same hvalid ends balanced
    · exact reaches
    · rw [← same index hle reaches, atIndex]
  exact ⟨hsheet, fun source same ↦ ⟨_, rfl, hsheet _ same⟩⟩

def unguardedBetween : List Line :=
  ["function a() onlyOwner \x7b \x7d".toList, "function b() public \x7b".toList, "  selfdestruct(o);".toList,
    "\x7d".toList, "function c() onlyOwner \x7b".toList]

def unguardedBehind : String :=
  "\x7d modifier onlyAdmin \x7b\nfunction b() public \x7b\n  selfdestruct(o);\n\x7d\nonlyOwner"

theorem own_function_decides_unguardedBetween :
    Scope.enclosingFunction? unguardedBetween (2 : Nat) = some 1 ∧ Scope.blockEnd unguardedBetween (1 : Nat) = 3 ∧
      AgreeBetween 1 3 unguardedBetween (Sheet.ofSource unguardedBehind.toList).code ∧
      ∃ outcome, analyzer.check (.str unguardedBehind) = .ok outcome ∧
        verdictsAt 2 outcome.vulnerabilities = [byAnyone.atLine (.ofSource unguardedBehind.toList) 2] := by
  have hnearest : Scope.enclosingFunction? unguardedBetween (2 : Nat) = some 1 := by decide +kernel
  have hends : Scope.blockEnd unguardedBetween (1 : Nat) = 3 := by decide +kernel
  have hbalanced : Scope.Closed 0 false (itemsBetween 1 3 unguardedBetween) := ⟨Or.inr (by decide), by decide⟩
  have hverdict : verdictIn (itemsBetween 1 3 unguardedBetween) = byAnyone := if_neg (by decide +kernel)
  have hsame : AgreeBetween 1 3 unguardedBetween (Sheet.ofSource unguardedBehind.toList).code := by
    have hcode : (Sheet.ofSource unguardedBehind.toList).code =
        "\x7d modifier onlyAdmin \x7b".toList :: itemsBetween 1 3 unguardedBetween ++ ["onlyOwner".toList] := by
      decide +kernel
    intro index hfirst hlast
    rw [hcode]
    obtain rfl | rfl | rfl : index = 1 ∨ index = 2 ∨ index = 3 := by omega
    all_goals decide +kernel
  have hdecides :=
    own_function_decides unguardedBetween 2 1 3 _ rfl (by decide) hnearest hends hbalanced (by decide)
  rw [hverdict] at hdecides
  exact ⟨hnearest, hends, hsame, hdecides.2 unguardedBehind hsame⟩

end Rule.SelfDestruct

end ContractAudit
