import ContractAudit.Advisor.Answer
import Mathlib.Data.List.Infix
import Mathlib.Data.List.TakeWhile

/-!
# Answers in code fences

A model may put its answer into a code fence. A fence is removed together with the language name and the blanks behind
it, wherever it stands, and the blanks around the rest are trimmed. Reading on after a fence differs from reading from
the start in leading blanks only, which are trimmed anyway. The line feed in front of the closing fence keeps it apart
from whatever ends the answer: no fence, and no language name, reaches across a line feed. So a fence around an answer
changes nothing, whatever the answer is, be it empty, unreadable or full of fences itself.
-/

namespace ContractAudit

/-! ## Trimming -/

namespace Text

theorem trimEnd_append_of_blank {after : List Char} (blank : ∀ c ∈ after, isBlank c = true) (text : List Char) :
    trimEnd (text ++ after) = trimEnd text := by
  have hreverse : ∀ c ∈ after.reverse, isBlank c = true := fun c hc ↦ blank c (List.mem_reverse.mp hc)
  rw [trimEnd, trimEnd, List.reverse_append, List.dropWhile_append_of_pos hreverse]

/-- Blanks at the end are trimmed, whatever stands in front of them. -/
theorem trim_append_of_blank {after : List Char} (blank : ∀ c ∈ after, isBlank c = true) (text : List Char) :
    trim (text ++ after) = trim text := by
  rw [trim, trim, trimStart, trimStart, List.dropWhile_append]
  split
  · next hempty =>
    rw [List.isEmpty_iff.mp hempty, List.dropWhile_eq_nil_iff.mpr blank]
  · exact trimEnd_append_of_blank blank _

theorem trimStart_cons_of_blank {c : Char} (blank : isBlank c = true) (rest : List Char) :
    trimStart (c :: rest) = trimStart rest :=
  List.dropWhile_cons_of_pos blank

/-- What begins before a line feed and has none in it ends before it. -/
theorem prefix_of_prefix_append_feed {start text after : List Char} (oneLine : '\n' ∉ start)
    (h : start <+: text ++ '\n' :: after) : start <+: text := by
  rcases List.prefix_or_prefix_of_prefix h (List.prefix_append text ('\n' :: after)) with hstart | ⟨others, rfl⟩
  · exact hstart
  · rw [List.prefix_append_right_inj, List.prefix_cons_iff] at h
    rcases h with rfl | ⟨later, rfl, -⟩
    · rw [List.append_nil]
    · exact absurd (List.mem_append_right _ List.mem_cons_self) oneLine

end Text

namespace Advisor

open Text

/-! ## Fences -/

/-- Whether a text is read after a fence or from the start shows in its leading blanks only. -/
theorem trimStart_removeFences (afterFence : Bool) (text : List Char) :
    trimStart (removeFences afterFence text) = trimStart (removeFences false text) := by
  fun_induction removeFences afterFence text with
  | case1 _ rest ih => rw [removeFences]
  | case2 _ rest notNamed ih => rw [removeFences.eq_2 _ _ notNamed]
  | case3 _ c rest notNamed notFence hblank ih =>
    obtain ⟨-, hc⟩ := Bool.and_eq_true_iff.mp hblank
    rw [removeFences.eq_3 _ _ _ notNamed notFence, Bool.false_and, if_neg Bool.false_ne_true,
      trimStart_cons_of_blank hc, ih]
  | case4 _ c rest notNamed notFence hblank ih =>
    rw [removeFences.eq_3 _ _ _ notNamed notFence, Bool.false_and, if_neg Bool.false_ne_true]
  | case5 _ => rw [removeFences]

def closingFence : List Char := ['\n', '`', '`', '`']

/-- A closing fence does not complete what the text before it has begun. -/
theorem append_closingFence_ne (start : List Char) {text : List Char} (oneLine : '\n' ∉ start)
    (h : ∀ others, text ≠ start ++ others) (others : List Char) : text ++ closingFence ≠ start ++ others := by
  intro heq
  obtain ⟨rest, hrest⟩ := prefix_of_prefix_append_feed oneLine (⟨others, heq.symm⟩ : start <+: text ++ closingFence)
  exact h rest hrest.symm

/-- A character that begins no fence begins none in front of a closing fence. -/
theorem removeFences_cons_append {c : Char} {rest : List Char}
    (notNamed : ∀ others, c = '`' → rest ≠ '`' :: '`' :: 'j' :: 's' :: 'o' :: 'n' :: others)
    (notFence : ∀ others, c = '`' → rest ≠ '`' :: '`' :: others) (afterFence : Bool) :
    removeFences afterFence (c :: rest ++ closingFence) =
      if (afterFence && isBlank c) = true then removeFences true (rest ++ closingFence)
      else c :: removeFences false (rest ++ closingFence) := by
  apply removeFences.eq_3
  · intro others hc
    exact append_closingFence_ne ['`', '`', 'j', 's', 'o', 'n'] (by decide) (fun others ↦ notNamed others hc) others
  · intro others hc
    exact append_closingFence_ne ['`', '`'] (by decide) (fun others ↦ notFence others hc) others

/-- A closing fence adds a blank at most. -/
theorem exists_removeFences_append (afterFence : Bool) (text : List Char) :
    ∃ after, (∀ c ∈ after, isBlank c = true) ∧
      removeFences afterFence (text ++ closingFence) = removeFences afterFence text ++ after := by
  fun_induction removeFences afterFence text with
  | case1 _ rest ih => exact ih
  | case2 afterFence rest notNamed ih =>
    have hfence : removeFences afterFence ('`' :: '`' :: '`' :: (rest ++ closingFence)) =
        removeFences true (rest ++ closingFence) :=
      removeFences.eq_2 _ _ (append_closingFence_ne ['j', 's', 'o', 'n'] (by decide) notNamed)
    obtain ⟨after, hafter, heq⟩ := ih
    exact ⟨after, hafter, hfence.trans heq⟩
  | case3 _ c rest notNamed notFence hblank ih =>
    rw [removeFences_cons_append notNamed notFence, if_pos hblank]
    exact ih
  | case4 _ c rest notNamed notFence hblank ih =>
    obtain ⟨after, hafter, heq⟩ := ih
    rw [removeFences_cons_append notNamed notFence, if_neg hblank, heq]
    exact ⟨after, hafter, rfl⟩
  | case5 afterFence =>
    cases afterFence with
    | false => exact ⟨['\n'], List.forall_mem_singleton.mpr rfl, rfl⟩
    | true => exact ⟨[], List.forall_mem_nil _, rfl⟩

/-- What is read after an opening fence and up to a closing one is what would be read without them. -/
theorem trim_removeFences_append (text : List Char) :
    trim (removeFences true (text ++ closingFence)) = unwrap text := by
  obtain ⟨after, hafter, heq⟩ := exists_removeFences_append true text
  rw [heq, trim_append_of_blank hafter, trim, trimStart_removeFences]
  rfl

/-! ## Answers -/

/-- A fence around an answer changes nothing, with or without the language name: the answer that is read is the same,
and so is the fault if none can be read. -/
theorem fences_transparent (text : String) :
    Answer.readValue (.str ("```json\n" ++ text ++ "\n```")) = Answer.readValue (.str text) ∧
      Answer.readValue (.str ("```\n" ++ text ++ "\n```")) = Answer.readValue (.str text) := by
  have hread {wrapped : List Char} (h : removeFences false wrapped = removeFences true (text.toList ++ closingFence)) :
      Answer.read wrapped = Answer.read text.toList := by
    rw [Answer.read, Answer.read, unwrap, h, trim_removeFences_append]
  constructor
  · apply hread
    rw [String.toList_append, String.toList_append]
    rfl
  · apply hread
    rw [String.toList_append, String.toList_append]
    rfl

end Advisor

end ContractAudit
