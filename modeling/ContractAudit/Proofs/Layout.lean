import ContractAudit.Proofs.Rendering
import Mathlib.Data.List.Nodup

/-!
# How verdicts are laid out

Every built-in rule reports advice in one of two ways: at lines of the sheet, found by a pass over the lines, or for the
source as a whole. A pass gives at most one advice of each of its categories at a line. This is all that is needed to
tell the findings of a verdict apart, and to know that their parts are texts.
-/

namespace ContractAudit

namespace Finding

/-- Findings that differ in their line, their category or their description. -/
def Apart (first second : Finding) : Prop :=
  first.line = second.line → first.category = second.category → first.description ≠ second.description

theorem Apart.symm {first second : Finding} (h : first.Apart second) : second.Apart first :=
  fun hline hcategory hdescription ↦ h hline.symm hcategory.symm hdescription.symm

theorem apart_of_line_ne {first second : Finding} (h : first.line ≠ second.line) : first.Apart second :=
  fun hline ↦ absurd hline h

theorem apart_of_category_ne {first second : Finding} (h : first.category ≠ second.category) : first.Apart second :=
  fun _ hcategory ↦ absurd hcategory h

end Finding

namespace Advice

/-- The finding gives the advice, for the source as a whole or at one of its lines. -/
def Given (advice : Advice) (sheet : Sheet) (finding : Finding) : Prop :=
  finding = advice.overall ∨ ∃ index < sheet.code.length, finding = advice.atLine sheet index

def isPlain (advice : Advice) : Bool := advice.location.isTextIfPresent && advice.savings.isTextIfPresent

/-- Advice on one line: plain, and of distinct categories that come in the order of the list. -/
def Orderly (categories : List String) (advices : List Advice) : Prop :=
  (advices.map (·.category)).Sublist categories ∧ ∀ advice ∈ advices, advice.isPlain = true

instance (categories : List String) (advices : List Advice) : Decidable (Orderly categories advices) :=
  inferInstanceAs (Decidable (_ ∧ _))

/-- Advice in different categories can be put together. -/
theorem Orderly.append {categories others : List String} {first second : List Advice}
    (hfirst : Orderly categories first) (hsecond : Orderly others second) :
    Orderly (categories ++ others) (first ++ second) := by
  refine ⟨?_, ?_⟩
  · rw [List.map_append]
    exact hfirst.1.append hsecond.1
  · intro advice hadvice
    rcases List.mem_append.mp hadvice with h | h
    · exact hfirst.2 advice h
    · exact hsecond.2 advice h

theorem Orderly.ite {categories : List String} {advices : List Advice} (h : Orderly categories advices)
    (condition : Bool) : Orderly categories (if condition then advices else []) := by
  cases condition with
  | true => exact h
  | false => exact ⟨List.nil_sublist _, fun _ hadvice ↦ absurd hadvice List.not_mem_nil⟩

theorem Given.category_eq {advice : Advice} {sheet : Sheet} {finding : Finding} (h : advice.Given sheet finding) :
    finding.category = .str advice.category := by
  rcases h with rfl | ⟨index, -, rfl⟩ <;> rfl

theorem Given.description_eq {advice : Advice} {sheet : Sheet} {finding : Finding} (h : advice.Given sheet finding) :
    finding.description = .str advice.description := by
  rcases h with rfl | ⟨index, -, rfl⟩ <;> rfl

theorem isTextIfPresent_snippet (sheet : Sheet) (index : Nat) : (sheet.snippet index).isTextIfPresent = true := by
  rw [Sheet.snippet]
  split <;> simp

/-- Plain advice can be shown and listed in every format. -/
theorem Given.shows_and_lists {advice : Advice} {sheet : Sheet} {finding : Finding} (h : advice.Given sheet finding)
    (plain : advice.isPlain = true) (format : ReportFormat) :
    format.shows finding = true ∧ format.lists finding = true := by
  obtain ⟨hlocation, hsavings⟩ := Bool.and_eq_true_iff.mp plain
  rcases h with rfl | ⟨index, -, rfl⟩ <;> cases format <;>
    simp [ReportFormat.shows, ReportFormat.lists, atLine, overall, hlocation, hsavings, isTextIfPresent_snippet]

end Advice

/-- Findings that give plain advice in the listed categories, all of them apart from each other. -/
structure Layout (sheet : Sheet) (categories : List String) (findings : List Finding) : Prop where
  given : ∀ finding ∈ findings, ∃ advice : Advice,
    advice.category ∈ categories ∧ advice.isPlain = true ∧ advice.Given sheet finding
  apart : findings.Pairwise Finding.Apart

namespace Layout

variable {sheet : Sheet} {categories others : List String} {first second : List Finding}

theorem nil : Layout sheet categories [] := ⟨fun _ h ↦ absurd h List.not_mem_nil, List.Pairwise.nil⟩

/-- The category of a finding is one of the listed ones. -/
theorem category_mem (layout : Layout sheet categories first) {finding : Finding} (h : finding ∈ first) :
    ∃ category ∈ categories, finding.category = .str category := by
  obtain ⟨advice, hcategory, -, hgiven⟩ := layout.given finding h
  exact ⟨advice.category, hcategory, hgiven.category_eq⟩

/-- No finding is in a category that is not listed. -/
theorem not_mem_of_category (layout : Layout sheet categories first) (category : String)
    (hother : category ∉ categories) {finding : Finding} :
    ¬ (finding ∈ first ∧ finding.category = .str category) := by
  rintro ⟨hfinding, hcategory⟩
  obtain ⟨listed, hlisted, heq⟩ := layout.category_mem hfinding
  cases hcategory.symm.trans heq
  exact hother hlisted

/-- If one category is listed, all findings are in it. -/
theorem mem_and_category_iff {category : String} (layout : Layout sheet [category] first) {finding : Finding} :
    finding ∈ first ∧ finding.category = .str category ↔ finding ∈ first := by
  refine and_iff_left_of_imp fun hfinding ↦ ?_
  obtain ⟨listed, hlisted, heq⟩ := layout.category_mem hfinding
  rw [heq, List.mem_singleton.mp hlisted]

theorem mono (layout : Layout sheet categories first) (h : categories ⊆ others) : Layout sheet others first where
  given finding hfinding := by
    obtain ⟨advice, hcategory, hrest⟩ := layout.given finding hfinding
    exact ⟨advice, h hcategory, hrest⟩
  apart := layout.apart

theorem perm (layout : Layout sheet categories first) (h : second.Perm first) : Layout sheet categories second where
  given finding hfinding := layout.given finding (h.mem_iff.mp hfinding)
  apart := (h.pairwise_iff fun hapart ↦ hapart.symm).mpr layout.apart

/-- Findings can be put together if they are apart from each other. -/
theorem append (hfirst : Layout sheet categories first) (hsecond : Layout sheet categories second)
    (across : ∀ finding ∈ first, ∀ other ∈ second, finding.Apart other) :
    Layout sheet categories (first ++ second) where
  given finding hfinding := by
    rcases List.mem_append.mp hfinding with h | h
    · exact hfirst.given finding h
    · exact hsecond.given finding h
  apart := List.pairwise_append.mpr ⟨hfirst.apart, hsecond.apart, across⟩

/-- Findings in different categories can be put together. -/
theorem append_of_disjoint (hfirst : Layout sheet categories first) (hsecond : Layout sheet others second)
    (disjoint : ∀ category ∈ categories, category ∉ others) :
    Layout sheet (categories ++ others) (first ++ second) := by
  apply append (hfirst.mono (List.subset_append_left _ _)) (hsecond.mono (List.subset_append_right _ _))
  intro finding hfinding other hother
  obtain ⟨category, hcategory, heq⟩ := hfirst.category_mem hfinding
  obtain ⟨category', hcategory', heq'⟩ := hsecond.category_mem hother
  apply Finding.apart_of_category_ne
  rw [heq, heq']
  intro hsame
  cases hsame
  exact disjoint category hcategory hcategory'

/-- Findings in disjoint categories are apart, so they can be put together. -/
theorem flatMap {ι : Type} {items : List ι} {families : ι → List String} {findings : ι → List Finding}
    (laid : ∀ item ∈ items, Layout sheet (families item) (findings item))
    (disjoint : items.Pairwise fun item other ↦ ∀ category ∈ families item, category ∉ families other) :
    Layout sheet (items.flatMap families) (items.flatMap findings) := by
  induction items with
  | nil => exact nil
  | cons item rest ih =>
    rw [List.forall_mem_cons] at laid
    rw [List.pairwise_cons] at disjoint
    rw [List.flatMap_cons, List.flatMap_cons]
    apply append_of_disjoint laid.1 (ih laid.2 disjoint.2)
    intro category hcategory hmem
    obtain ⟨other, hother, hmem⟩ := List.mem_flatMap.mp hmem
    exact disjoint.1 other hother category hcategory hmem

end Layout

/-- Both the vulnerabilities and the issues are laid out in the listed categories. -/
structure Verdict.LaidOut (sheet : Sheet) (categories : List String) (verdict : Verdict) : Prop where
  vulnerabilities : Layout sheet categories verdict.vulnerabilities
  issues : Layout sheet categories verdict.issues

/-! ## Advice at lines -/

/-- A pass sees the indexes in increasing order. -/
theorem pairwise_snd_zipIdx {α : Type} (items : List α) :
    items.zipIdx.Pairwise fun entry other ↦ entry.2 < other.2 := by
  have hrange : (items.zipIdx.map Prod.snd).Pairwise (· < ·) := by
    rw [List.zipIdx_map_snd]
    exact List.pairwise_lt_range'
  exact List.pairwise_map.mp hrange

/-- Of a pass that does something at one index only, what it does there is left. -/
theorem flatMap_zipIdx_ite {α β : Type} (items : List α) (f : α → List β) (number index : Nat) :
    ((items.zipIdx number).flatMap fun entry ↦ if entry.2 = number + index then f entry.1 else []) =
      items[index]?.toList.flatMap f := by
  induction items generalizing number index with
  | nil => rfl
  | cons item items ih =>
    rw [List.zipIdx_cons, List.flatMap_cons]
    cases index with
    | zero =>
      have hlater :
          ((items.zipIdx (number + 1)).flatMap fun entry ↦ if entry.2 = number then f entry.1 else []) = [] := by
        refine List.flatMap_eq_nil_iff.mpr fun entry hentry ↦ if_neg ?_
        have hle : number + 1 ≤ entry.2 := List.le_snd_of_mem_zipIdx hentry
        omega
      rw [Nat.add_zero, if_pos rfl, hlater, List.append_nil]
      simp
    | succ index =>
      have hshift : number + (index + 1) = number + 1 + index := by omega
      rw [if_neg (by omega), List.nil_append, hshift, ih, List.getElem?_cons_succ]

namespace Sheet

/-- The findings of a pass over items that belong to the lines of a sheet. -/
def mark {α : Type} (sheet : Sheet) (items : List α) (advise : α → Nat → List Advice) : List Finding :=
  items.zipIdx.flatMap fun entry ↦ (advise entry.1 entry.2).map (·.atLine sheet entry.2)

variable {α : Type} {sheet : Sheet} {items : List α} {advise : α → Nat → List Advice} {finding : Finding}

theorem mem_mark : finding ∈ sheet.mark items advise ↔
    ∃ entry ∈ items.zipIdx, ∃ advice ∈ advise entry.1 entry.2, finding = advice.atLine sheet entry.2 := by
  simp only [mark, List.mem_flatMap, List.mem_map, eq_comm (a := finding)]

theorem line_ne_none_of_mem_mark (h : finding ∈ sheet.mark items advise) : finding.line ≠ none := by
  obtain ⟨entry, -, advice, -, rfl⟩ := mem_mark.mp h
  exact Option.some_ne_none _

/-- The findings of a pass at a line give what it advises there. -/
theorem filter_line_mark (index : Nat) :
    (sheet.mark items advise).filter (fun finding ↦ finding.line = some (.ofIndex index)) =
      items[index]?.toList.flatMap fun item ↦ (advise item index).map (·.atLine sheet index) := by
  have hentry (entry : α × Nat) :
      ((advise entry.1 entry.2).map (·.atLine sheet entry.2)).filter
          (fun finding ↦ finding.line = some (.ofIndex index)) =
        if entry.2 = 0 + index then (advise entry.1 index).map (·.atLine sheet index) else [] := by
    rw [Nat.zero_add]
    split
    · next heq =>
      rw [heq, List.filter_eq_self]
      simp [Advice.atLine]
    · next hne =>
      rw [List.filter_eq_nil_iff]
      simp [Advice.atLine, LineNumber.ofIndex, hne]
  rw [mark, List.filter_flatMap, ← flatMap_zipIdx_ite items _ 0 index]
  exact List.flatMap_congr fun entry _ ↦ hentry entry

/-- A pass is laid out if its advice on each line is orderly. -/
theorem layout_mark {categories : List String} (distinct : categories.Nodup)
    (length : items.length ≤ sheet.code.length)
    (orderly : ∀ item index, Advice.Orderly categories (advise item index)) :
    Layout sheet categories (sheet.mark items advise) where
  given finding hfinding := by
    obtain ⟨entry, hentry, advice, hadvice, rfl⟩ := mem_mark.mp hfinding
    have hindex : entry.2 < items.length := List.snd_lt_of_mem_zipIdx hentry
    obtain ⟨hordered, hplain⟩ := orderly entry.1 entry.2
    exact ⟨advice, hordered.subset (List.mem_map_of_mem hadvice), hplain advice hadvice,
      Or.inr ⟨entry.2, Nat.lt_of_lt_of_le hindex length, rfl⟩⟩
  apart := by
    rw [mark, List.pairwise_flatMap]
    constructor
    · intro entry _
      have hcategories : ((advise entry.1 entry.2).map (·.category)).Nodup :=
        distinct.sublist (orderly entry.1 entry.2).1
      rw [List.pairwise_map]
      refine (List.pairwise_map.mp hcategories).imp fun hne ↦ Finding.apart_of_category_ne ?_
      intro hsame
      exact hne (Value.str.inj hsame)
    · refine (pairwise_snd_zipIdx items).imp fun {entry other} hlt ↦ ?_
      intro finding hfinding finding' hfinding'
      obtain ⟨advice, -, rfl⟩ := List.mem_map.mp hfinding
      obtain ⟨advice', -, rfl⟩ := List.mem_map.mp hfinding'
      apply Finding.apart_of_line_ne
      intro hsame
      have hnumber : entry.2 + 1 = other.2 + 1 := congrArg Subtype.val (Option.some.inj hsame)
      omega

end Sheet

/-! ## Advice for the source as a whole -/

/-- Advice for the whole source is laid out if the descriptions differ. -/
theorem layout_overall {sheet : Sheet} {categories : List String} {advices : List Advice}
    (plain : ∀ advice ∈ advices, advice.category ∈ categories ∧ advice.isPlain = true)
    (distinct : advices.Pairwise fun first second ↦ first.description ≠ second.description) :
    Layout sheet categories (advices.map Advice.overall) where
  given finding hfinding := by
    obtain ⟨advice, hadvice, rfl⟩ := List.mem_map.mp hfinding
    obtain ⟨hcategory, hplain⟩ := plain advice hadvice
    exact ⟨advice, hcategory, hplain, Or.inl rfl⟩
  apart := by
    rw [List.pairwise_map]
    exact distinct.imp fun hne _ _ hsame ↦ hne (Value.str.inj hsame)

theorem apart_mark_overall {α : Type} {sheet : Sheet} {items : List α} {advise : α → Nat → List Advice}
    {advices : List Advice} {finding other : Finding} (hfinding : finding ∈ sheet.mark items advise)
    (hother : other ∈ advices.map Advice.overall) : finding.Apart other := by
  obtain ⟨advice, -, rfl⟩ := List.mem_map.mp hother
  exact Finding.apart_of_line_ne (Sheet.line_ne_none_of_mem_mark hfinding)

end ContractAudit
