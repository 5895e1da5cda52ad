import ContractAudit.Proofs.CommentScan
import Mathlib.Data.List.Forall2

/-!
# The lines of the code

Stripping comments only deletes characters and never a line feed. What is left is therefore laid out in the same lines
as the source, each of them part of the raw line with its index, so that an index into the code is an index into the
source. No two slashes are left side by side.
-/

namespace ContractAudit

/-! ## Deleting characters -/

namespace Text

theorem splitLines_feed_cons (rest : List Char) : splitLines ('\n' :: rest) = [] :: splitLines rest := by
  obtain ⟨line, lines, hrest⟩ := List.exists_cons_of_ne_nil (splitLines_ne_nil rest)
  rw [splitLines, hrest]
  exact if_pos rfl

theorem splitLines_cons_eq {c : Char} (notFeed : c ≠ '\n') {rest : List Char} {line : Line} {lines : List Line}
    (hrest : splitLines rest = line :: lines) : splitLines (c :: rest) = (c :: line) :: lines := by
  rw [splitLines, hrest]
  exact if_neg notFeed

/-- A line holds no line feed. -/
theorem feed_notMem_of_mem_splitLines {text : List Char} {line : Line} (h : line ∈ splitLines text) : '\n' ∉ line := by
  induction text generalizing line with
  | nil =>
    rw [List.mem_singleton.mp h]
    exact List.not_mem_nil
  | cons c rest ih =>
    by_cases hfeed : c = '\n'
    · rw [hfeed, splitLines_feed_cons] at h
      rcases List.mem_cons.mp h with rfl | hlater
      · exact List.not_mem_nil
      · exact ih hlater
    · obtain ⟨first, lines, hrest⟩ := List.exists_cons_of_ne_nil (splitLines_ne_nil rest)
      rw [splitLines_cons_eq hfeed hrest] at h
      rw [hrest] at ih
      rcases List.mem_cons.mp h with rfl | hlater
      · exact List.not_mem_cons_of_ne_of_not_mem (Ne.symm hfeed) (ih List.mem_cons_self)
      · exact ih (List.mem_cons_of_mem first hlater)

/-- One more character in front of a text, deleted or kept, is one more in its first line. -/
theorem splitLines_sublists_cons {c : Char} (notFeed : c ≠ '\n') {kept text : List Char}
    (h : List.Forall₂ List.Sublist (splitLines kept) (splitLines text)) :
    List.Forall₂ List.Sublist (splitLines kept) (splitLines (c :: text)) ∧
      List.Forall₂ List.Sublist (splitLines (c :: kept)) (splitLines (c :: text)) := by
  obtain ⟨line, lines, htext⟩ := List.exists_cons_of_ne_nil (splitLines_ne_nil text)
  rw [htext, List.forall₂_cons_right_iff] at h
  obtain ⟨first, others, hline, hothers, hkept⟩ := h
  rw [splitLines_cons_eq notFeed htext, splitLines_cons_eq notFeed hkept, hkept]
  exact ⟨List.Forall₂.cons (hline.cons c) hothers, List.Forall₂.cons (hline.cons_cons c) hothers⟩

/-- A text from which no line feed was deleted keeps its lines, each with some characters deleted. -/
theorem splitLines_sublists {kept text : List Char} (deleted : kept.Sublist text)
    (feeds : kept.count '\n' = text.count '\n') : List.Forall₂ List.Sublist (splitLines kept) (splitLines text) := by
  induction deleted with
  | slnil => exact List.forall₂_same.mpr fun line _ ↦ List.Sublist.refl line
  | @cons kept text c deleted ih =>
    have notFeed : c ≠ '\n' := by
      rintro rfl
      have hcount : kept.count '\n' ≤ text.count '\n' := deleted.count_le '\n'
      rw [List.count_cons_self] at feeds
      omega
    rw [List.count_cons_of_ne notFeed] at feeds
    exact (splitLines_sublists_cons notFeed (ih feeds)).1
  | @cons_cons kept text c deleted ih =>
    rw [List.count_cons, List.count_cons, Nat.add_right_cancel_iff] at feeds
    by_cases hfeed : c = '\n'
    · rw [hfeed, splitLines_feed_cons, splitLines_feed_cons]
      exact List.Forall₂.cons (List.Sublist.refl []) (ih feeds)
    · exact (splitLines_sublists_cons hfeed (ih feeds)).2

end Text

/-! ## Comments -/

namespace Comment

open Text

theorem blankBlocks_sublist (inside : Bool) (text : List Char) : (blankBlocks inside text).Sublist text := by
  fun_induction blankBlocks inside text with
  | case1 tail hcloses ih => exact (ih.cons '*').cons '/'
  | case2 tail hcloses ih => exact ih.cons_cons '/'
  | case3 tail ih => exact (ih.cons '/').cons '*'
  | case4 c tail notOpening ih => exact ih.cons_cons c
  | case5 tail notClosing ih => exact ih.cons_cons '\n'
  | case6 c tail notClosing notFeed ih => exact ih.cons c
  | case7 inside => exact List.Sublist.slnil

theorem dropLineComments_sublist (inside : Bool) (text : List Char) : (dropLineComments inside text).Sublist text := by
  fun_induction dropLineComments inside text with
  | case1 tail ih => exact (ih.cons '/').cons '/'
  | case2 tail ih => exact ih.cons_cons '\n'
  | case3 c tail notOpening ih => exact ih.cons_cons c
  | case4 c tail notFeed ih => exact ih.cons c
  | case5 inside => exact List.Sublist.slnil

/-- Stripping only removes characters. -/
theorem strip_sublist (source : List Char) : (strip source).Sublist source :=
  (dropLineComments_sublist false _).trans (blankBlocks_sublist false source)

/-- Outside of line comments the first character is kept. -/
theorem head?_dropLineComments_ne {text : List Char} (h : text.head? ≠ some '/') :
    (dropLineComments false text).head? ≠ some '/' := by
  cases text with
  | nil => simp [dropLineComments]
  | cons c rest =>
    have hslash : c ≠ '/' := by simpa using h
    rw [dropLineComments_false_cons fun hpair ↦ hslash hpair.1]
    exact h

/-- No line comment is left. The character after a slash that was kept is the one that followed it in the text. -/
theorem not_infix_dropLineComments (inside : Bool) (text : List Char) :
    ¬ ['/', '/'] <:+: dropLineComments inside text := by
  fun_induction dropLineComments inside text with
  | case1 tail ih => exact ih
  | case2 tail ih =>
    rw [List.infix_cons_iff, not_or]
    exact ⟨by simp, ih⟩
  | case3 c tail notOpening ih =>
    rw [not_pair_iff] at notOpening
    rw [List.infix_cons_iff, not_or]
    refine ⟨fun h ↦ ?_, ih⟩
    rw [List.cons_prefix_cons] at h
    obtain ⟨rfl, rest, hrest⟩ := h
    have hhead : tail.head? ≠ some '/' := fun hslash ↦ notOpening ⟨rfl, hslash⟩
    exact head?_dropLineComments_ne hhead (by rw [← hrest]; rfl)
  | case4 c tail notFeed ih => exact ih
  | case5 inside => simp

/-- The code has as many lines as the source, each of them is the raw line with the same index with characters deleted,
and no two slashes are left side by side. -/
theorem strip_keeps_lines (source : List Char) :
    (splitLines (strip source)).length = (splitLines source).length ∧
      List.Forall₂ List.Sublist (splitLines (strip source)) (splitLines source) ∧
      ¬ ['/', '/'] <:+: strip source := by
  have hlines := splitLines_sublists (strip_sublist source) (count_feed_strip source)
  exact ⟨hlines.length_eq, hlines, not_infix_dropLineComments false _⟩

end Comment

end ContractAudit
