import ContractAudit.Comment
import Mathlib.Data.List.Basic

/-!
# Scanning for comments

Comments are stripped by two scans over the characters of a source, one for block comments and one for line comments. A
scan looks at pairs of characters, so it can be cut in two at any place that splits no pair and where its state is
known. Neither scan drops a line feed.
-/

namespace ContractAudit.Comment

/-- Whether a text that starts inside or outside of a block comment ends inside one. A comment that is never closed
reaches to the end of the text. -/
def endsInside : (inside : Bool) → List Char → Bool
  | false, '/' :: '*' :: rest => endsInside true rest
  | true, '*' :: '/' :: rest => endsInside false rest
  | inside, _ :: rest => endsInside inside rest
  | inside, [] => inside

/-! ## One character at a time -/

/-- Both ways to say that a text does not start with two given characters. -/
theorem not_pair_iff {c first second : Char} {tail : List Char} :
    (∀ rest, c = first → tail = second :: rest → False) ↔ ¬ (c = first ∧ tail.head? = some second) := by
  cases tail <;> simp

theorem closes_cons {c : Char} {tail : List Char} (h : ¬ (c = '*' ∧ tail.head? = some '/')) :
    closes (c :: tail) = closes tail := by
  rw [closes]
  exact not_pair_iff.mpr h

theorem blankBlocks_false_cons {c : Char} {tail : List Char} (h : ¬ (c = '/' ∧ tail.head? = some '*')) :
    blankBlocks false (c :: tail) = c :: blankBlocks false tail := by
  rw [blankBlocks]
  exact not_pair_iff.mpr h

theorem blankBlocks_true_cons {c : Char} {tail : List Char} (h : ¬ (c = '*' ∧ tail.head? = some '/')) :
    blankBlocks true (c :: tail) = if c = '\n' then '\n' :: blankBlocks true tail else blankBlocks true tail := by
  rw [blankBlocks]
  exact not_pair_iff.mpr h

theorem endsInside_false_cons {c : Char} {tail : List Char} (h : ¬ (c = '/' ∧ tail.head? = some '*')) :
    endsInside false (c :: tail) = endsInside false tail := by
  rw [endsInside]
  · intro rest _
    exact not_pair_iff.mpr h rest
  · nofun

theorem endsInside_true_cons {c : Char} {tail : List Char} (h : ¬ (c = '*' ∧ tail.head? = some '/')) :
    endsInside true (c :: tail) = endsInside true tail := by
  rw [endsInside]
  · nofun
  · intro rest _
    exact not_pair_iff.mpr h rest

theorem dropLineComments_false_cons {c : Char} {tail : List Char} (h : ¬ (c = '/' ∧ tail.head? = some '/')) :
    dropLineComments false (c :: tail) = c :: dropLineComments false tail := by
  rw [dropLineComments]
  exact not_pair_iff.mpr h

theorem dropLineComments_true_cons {c : Char} {tail : List Char} (h : c ≠ '\n') :
    dropLineComments true (c :: tail) = dropLineComments true tail := by
  rw [dropLineComments]
  exact h

/-! ## Where block comments are closed -/

/-- More text behind the end of a comment changes nothing. -/
theorem closes_append_left {text : List Char} (h : closes text = true) (rest : List Char) :
    closes (text ++ rest) = true := by
  fun_induction closes text with
  | case1 tail => rfl
  | case2 c tail notClosing ih =>
    rw [not_pair_iff] at notClosing
    have htail : tail ≠ [] := by
      rintro rfl
      cases h
    rw [List.cons_append, closes_cons, ih h]
    rwa [List.head?_append_of_ne_nil _ htail]
  | case3 => cases h

theorem closes_cons_of_closes {tail : List Char} (h : closes tail = true) (c : Char) : closes (c :: tail) = true := by
  by_cases hpair : c = '*' ∧ tail.head? = some '/'
  · obtain ⟨rfl, hhead⟩ := hpair
    obtain ⟨rest, rfl⟩ := List.head?_eq_some_iff.mp hhead
    rfl
  · rw [closes_cons hpair, h]

theorem closes_append_right {rest : List Char} (h : closes rest = true) (text : List Char) :
    closes (text ++ rest) = true := by
  induction text with
  | nil => exact h
  | cons c text ih => exact closes_cons_of_closes ih c

theorem closes_tail_eq_false {c : Char} {tail : List Char} (h : closes (c :: tail) = false) : closes tail = false := by
  rw [← Bool.not_eq_true] at h ⊢
  exact fun htail ↦ h (closes_cons_of_closes htail c)

/-- A comment that ends is closed. -/
theorem closes_of_endsInside {text : List Char} (h : endsInside true text = false) : closes text = true := by
  fun_induction closes text with
  | case1 tail => rfl
  | case2 c tail notClosing ih =>
    rw [endsInside_true_cons (not_pair_iff.mp notClosing)] at h
    exact ih h
  | case3 => cases h

/-! ## Block comments in two parts -/

/-- A scan that is outside of block comments after the first part goes on as if the second part were alone. -/
theorem blankBlocks_append {inside : Bool} {text rest : List Char} (ends : endsInside inside text = false)
    (boundary : rest.head? ≠ some '*') :
    blankBlocks inside (text ++ rest) = blankBlocks inside text ++ blankBlocks false rest := by
  fun_induction blankBlocks inside text with
  | case1 tail hcloses ih =>
    rw [List.cons_append, List.cons_append, blankBlocks, if_pos (closes_append_left hcloses rest), ih ends]
  | case2 tail hcloses ih => exact absurd (closes_of_endsInside ends) hcloses
  | case3 tail ih => rw [List.cons_append, List.cons_append, blankBlocks, ih ends]
  | case4 c tail notOpening ih =>
    rw [not_pair_iff] at notOpening
    rw [endsInside_false_cons notOpening] at ends
    rw [List.cons_append, blankBlocks_false_cons, ih ends, List.cons_append]
    cases tail with
    | nil => exact fun hpair ↦ boundary hpair.2
    | cons d tail => exact notOpening
  | case5 tail notClosing ih =>
    rw [endsInside_true_cons (not_pair_iff.mp notClosing)] at ends
    rw [List.cons_append, blankBlocks_true_cons (by simp), if_pos rfl, ih ends, List.cons_append]
  | case6 c tail notClosing notFeed ih =>
    rw [not_pair_iff] at notClosing
    rw [endsInside_true_cons notClosing] at ends
    rw [List.cons_append, blankBlocks_true_cons, if_neg notFeed, ih ends]
    cases tail with
    | nil => cases ends
    | cons d tail => exact notClosing
  | case7 inside =>
    have houtside : inside = false := by
      cases inside with
      | false => rfl
      | true => cases ends
    rw [houtside]
    rfl

/-- Where nothing is closed there are no block comments. -/
theorem blankBlocks_eq_self {text : List Char} (h : closes text = false) : blankBlocks false text = text := by
  induction text with
  | nil => rfl
  | cons c tail ih =>
    have htail := closes_tail_eq_false h
    by_cases hpair : c = '/' ∧ tail.head? = some '*'
    · obtain ⟨rfl, hhead⟩ := hpair
      obtain ⟨rest, rfl⟩ := List.head?_eq_some_iff.mp hhead
      have hrest := Bool.eq_false_iff.mp (closes_tail_eq_false htail)
      rw [blankBlocks, if_neg hrest, ih htail]
    · rw [blankBlocks_false_cons hpair, ih htail]

/-- Outside of block comments the last character is kept; only a slash can end a comment. -/
theorem getLast?_blankBlocks {inside : Bool} {text : List Char} {last : Char} (ends : endsInside inside text = false)
    (hlast : text.getLast? = some last) (notSlash : last ≠ '/') :
    (blankBlocks inside text).getLast? = some last := by
  fun_induction blankBlocks inside text with
  | case1 tail hcloses ih =>
    cases tail with
    | nil => cases hcloses
    | cons d tail => exact ih ends hlast
  | case2 tail hcloses ih => exact absurd (closes_of_endsInside ends) hcloses
  | case3 tail ih =>
    cases tail with
    | nil => exact absurd (Option.some.inj hlast).symm notSlash
    | cons d tail => exact ih ends hlast
  | case4 c tail notOpening ih =>
    rw [endsInside_false_cons (not_pair_iff.mp notOpening)] at ends
    cases tail with
    | nil => exact hlast
    | cons d tail => rw [List.getLast?_cons, ih ends hlast, Option.getD_some]
  | case5 tail notClosing ih =>
    rw [endsInside_true_cons (not_pair_iff.mp notClosing)] at ends
    cases tail with
    | nil => cases ends
    | cons d tail => rw [List.getLast?_cons, ih ends hlast, Option.getD_some]
  | case6 c tail notClosing notFeed ih =>
    rw [endsInside_true_cons (not_pair_iff.mp notClosing)] at ends
    cases tail with
    | nil => cases ends
    | cons d tail => exact ih ends hlast
  | case7 inside => cases hlast

/-! ## Line feeds -/

/-- Blanking block comments keeps all line feeds. -/
theorem count_feed_blankBlocks (inside : Bool) (text : List Char) :
    (blankBlocks inside text).count '\n' = text.count '\n' := by
  fun_induction blankBlocks inside text with
  | case1 tail hcloses ih => simp [ih]
  | case2 tail hcloses ih => simpa using ih
  | case3 tail ih => simp [ih]
  | case4 c tail notOpening ih => simp [List.count_cons, ih]
  | case5 tail notClosing ih => simp [ih]
  | case6 c tail notClosing notFeed ih => simp [notFeed, ih]
  | case7 inside => rfl

/-- Dropping line comments keeps all line feeds. -/
theorem count_feed_dropLineComments (inside : Bool) (text : List Char) :
    (dropLineComments inside text).count '\n' = text.count '\n' := by
  fun_induction dropLineComments inside text with
  | case1 tail ih => simp [ih]
  | case2 tail ih => simp [ih]
  | case3 c tail notOpening ih => simp [List.count_cons, ih]
  | case4 c tail notFeed ih => rw [ih, List.count_cons_of_ne notFeed]
  | case5 inside => rfl

/-- Stripping comments keeps every line feed. -/
theorem count_feed_strip (source : List Char) : (strip source).count '\n' = source.count '\n' := by
  unfold strip
  rw [count_feed_dropLineComments, count_feed_blankBlocks]

end ContractAudit.Comment
