import ContractAudit.Proofs.Layout
import Mathlib.Data.List.TakeWhile

/-!
# Keys of findings

The key of a finding joins its category, its place and its description with hyphens, and categories and descriptions may
hold hyphens of their own. As long as categories differ before their first hyphen, the key still determines all three
parts.
-/

namespace ContractAudit

/-! ## Texts with hyphens -/

def beforeHyphen (text : List Char) : List Char := text.takeWhile (· ≠ '-')

theorem beforeHyphen_append (text rest : List Char) : beforeHyphen (text ++ '-' :: rest) = beforeHyphen text := by
  induction text with
  | nil => rfl
  | cons c text ih =>
    rw [beforeHyphen, beforeHyphen] at ih ⊢
    rw [List.cons_append, List.takeWhile_cons, List.takeWhile_cons, ih]

theorem beforeHyphen_eq_self {text : List Char} (h : '-' ∉ text) : beforeHyphen text = text := by
  rw [beforeHyphen, List.takeWhile_eq_self_iff]
  intro c hc
  exact decide_eq_true fun heq ↦ h (heq ▸ hc)

/-- A hyphen after texts that hold none splits both sides of an equation. -/
theorem eq_and_eq_of_append_hyphen {first second rest others : List Char} (hfirst : '-' ∉ first)
    (hsecond : '-' ∉ second) (h : first ++ '-' :: rest = second ++ '-' :: others) : first = second ∧ rest = others := by
  have hsame : first = second := by
    have hbefore := congrArg beforeHyphen h
    rwa [beforeHyphen_append, beforeHyphen_append, beforeHyphen_eq_self hfirst, beforeHyphen_eq_self hsecond] at hbefore
  subst hsame
  exact ⟨rfl, List.cons.inj (List.append_cancel_left h) |>.2⟩

/-! ## The parts of a key -/

namespace Finding

/-- A key spelled out. -/
theorem toList_key (finding : Finding) :
    finding.key.toList = finding.category.text.toList ++
      '-' :: (finding.place.toList ++ '-' :: finding.description.text.toList) := by
  simp [key]

theorem toList_place_of_some {finding : Finding} {number : LineNumber} (h : finding.line = some number) :
    finding.place.toList = Nat.toDigits 10 number.val := by
  rw [place, h, String.toList_ofList]

theorem toList_place_of_none {finding : Finding} (h : finding.line = none) :
    finding.place.toList = ['g', 'e', 'n', 'e', 'r', 'a', 'l'] := by
  rw [place, h]
  rfl

theorem notMem_toDigits {c : Char} (h : c.isDigit = false) (number : Nat) : c ∉ Nat.toDigits 10 number := by
  intro hmem
  have hdigit : c.isDigit = true := Nat.isDigit_of_mem_toDigits (by decide) (by decide) hmem
  rw [h] at hdigit
  cases hdigit

/-- A place holds no hyphen. -/
theorem hyphen_notMem_place (finding : Finding) : '-' ∉ finding.place.toList := by
  cases hline : finding.line with
  | none =>
    rw [toList_place_of_none hline]
    decide
  | some number =>
    rw [toList_place_of_some hline]
    exact notMem_toDigits rfl number.val

/-- The place of a finding tells its line. -/
theorem line_eq_of_place_eq {first second : Finding} (h : first.place = second.place) : first.line = second.line := by
  have hdigit : ∀ number : LineNumber, Nat.toDigits 10 number.val ≠ ['g', 'e', 'n', 'e', 'r', 'a', 'l'] := by
    intro number hsame
    exact notMem_toDigits rfl number.val (hsame ▸ List.mem_cons_self)
  have hlist := congrArg String.toList h
  cases hfirst : first.line with
  | none =>
    cases hsecond : second.line with
    | none => rfl
    | some number =>
      rw [toList_place_of_none hfirst, toList_place_of_some hsecond] at hlist
      exact absurd hlist.symm (hdigit number)
  | some number =>
    cases hsecond : second.line with
    | none =>
      rw [toList_place_of_some hfirst, toList_place_of_none hsecond] at hlist
      exact absurd hlist (hdigit number)
    | some other =>
      rw [toList_place_of_some hfirst, toList_place_of_some hsecond] at hlist
      have hnumber := congrArg (fun digits ↦ Nat.ofDigitChars 10 digits 0) hlist
      simp only [Nat.ofDigitChars_ten_toDigits] at hnumber
      exact congrArg some (Subtype.ext hnumber)

/-- Findings with one key differ in no part of it, if their categories are not mistaken for each other. -/
theorem parts_eq_of_key_eq {first second : Finding}
    (clear : beforeHyphen first.category.text.toList = beforeHyphen second.category.text.toList →
      first.category.text = second.category.text)
    (h : first.key = second.key) :
    first.category.text = second.category.text ∧ first.line = second.line ∧
      first.description.text = second.description.text := by
  have hlist : first.key.toList = second.key.toList := congrArg String.toList h
  rw [toList_key, toList_key] at hlist
  have hcategory : first.category.text = second.category.text := by
    apply clear
    have hbefore := congrArg beforeHyphen hlist
    rwa [beforeHyphen_append, beforeHyphen_append] at hbefore
  rw [hcategory] at hlist
  obtain ⟨hplace, hdescription⟩ := eq_and_eq_of_append_hyphen (hyphen_notMem_place first) (hyphen_notMem_place second)
    (List.cons.inj (List.append_cancel_left hlist)).2
  exact ⟨hcategory, line_eq_of_place_eq (String.toList_injective hplace), String.toList_injective hdescription⟩

end Finding

end ContractAudit
