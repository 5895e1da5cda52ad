import ContractAudit.Pattern.Vocabulary
import Mathlib.Data.List.Infix

/-!
# What patterns take

A pattern is run by listing the places where it can end. What it means is simpler to say: which characters it can take
between the character before them and the text after them. Both agree, captures aside, so a pattern occurs in a text
exactly when the text has a part that the pattern can take where it stands.

A pattern that asks nothing of its surroundings can take a part of a text wherever that part stands. It therefore occurs
in a text if it occurs in a part of it.
-/

namespace ContractAudit.Pattern

/-! ## The meaning of a pattern -/

/-- The character before the place behind some characters. -/
def lastOr (before : Option Char) (taken : List Char) : Option Char := taken.getLast?.or before

theorem lastOr_append (before : Option Char) (first second : List Char) :
    lastOr before (first ++ second) = lastOr (lastOr before first) second := by
  rw [lastOr, lastOr, lastOr, List.getLast?_append, Option.or_assoc]

theorem lastOr_cons (before : Option Char) (c : Char) (taken : List Char) :
    lastOr before (c :: taken) = lastOr (some c) taken :=
  lastOr_append before [c] taken

/-- A condition on characters, on the one before them and on the text after them. -/
abbrev Condition := (before : Option Char) → (taken rest : List Char) → Prop

/-- The characters come in pieces, each of which meets the condition where it stands. -/
inductive Repeats (step : Condition) : Condition
  | none (before : Option Char) (rest : List Char) : Repeats step before [] rest
  | more {before : Option Char} {piece taken rest : List Char} (first : step before piece (taken ++ rest))
      (others : Repeats step (lastOr before piece) taken rest) : Repeats step before (piece ++ taken) rest

/-- The pattern can take the characters between the character before them and the text after them. -/
def Takes : Pattern → Condition
  | empty, _, taken, _ => taken = []
  | one accepts, _, taken, _ => ∃ c, taken = [c] ∧ accepts c = true
  | run accepts _, _, taken, _ => ∀ c ∈ taken, accepts c = true
  | between holds, before, taken, rest => taken = [] ∧ holds before rest.head? = true
  | seq first second, before, taken, rest =>
    ∃ left right, taken = left ++ right ∧ first.Takes before left (right ++ rest) ∧
      second.Takes (lastOr before left) right rest
  | alt first second, before, taken, rest => first.Takes before taken rest ∨ second.Takes before taken rest
  | many body, before, taken, rest => Repeats body.Takes before taken rest
  | capture _ body, before, taken, rest => body.Takes before taken rest

/-- The second place lies behind some characters that meet the condition at the first, whatever was captured between. -/
structure Reached (takes : Condition) (start stop : Cursor) (taken : List Char) : Prop where
  rest : start.rest = taken ++ stop.rest
  before : stop.before = lastOr start.before taken
  takes : takes start.before taken stop.rest

/-! ## The places where a pattern can end -/

/-- A run ends behind some characters of its class: none, or the first one and then more of them. -/
theorem mem_runEnds {accepts : Char → Bool} {captures : List (Nat × Span)} {before : Option Char} {text : List Char}
    {shorter : List Cursor} {stop : Cursor} :
    stop ∈ runEnds accepts captures before text shorter ↔
      stop ∈ shorter ∨ ∃ taken rest, text = taken ++ rest ∧ (∀ c ∈ taken, accepts c = true) ∧
        stop = ⟨lastOr before taken, rest, captures⟩ := by
  induction text generalizing before shorter with
  | nil =>
    rw [runEnds, List.mem_cons, or_comm]
    refine or_congr_right ⟨?_, ?_⟩
    · rintro rfl
      exact ⟨[], [], rfl, by simp, rfl⟩
    · rintro ⟨taken, rest, htext, -, rfl⟩
      obtain ⟨rfl, rfl⟩ := List.append_eq_nil_iff.mp htext.symm
      rfl
  | cons c text ih =>
    have hcons : (∃ taken rest, c :: text = taken ++ rest ∧ (∀ c ∈ taken, accepts c = true) ∧
          stop = ⟨lastOr before taken, rest, captures⟩) ↔
        stop = ⟨before, c :: text, captures⟩ ∨ accepts c = true ∧ ∃ taken rest, text = taken ++ rest ∧
          (∀ c ∈ taken, accepts c = true) ∧ stop = ⟨lastOr (some c) taken, rest, captures⟩ := by
      constructor
      · rintro ⟨taken, rest, htext, hall, rfl⟩
        rcases List.cons_eq_append_iff.mp htext with ⟨rfl, rfl⟩ | ⟨others, rfl, rfl⟩
        · exact Or.inl rfl
        · rw [List.forall_mem_cons] at hall
          exact Or.inr ⟨hall.1, others, rest, rfl, hall.2, by rw [lastOr_cons]⟩
      · rintro (rfl | ⟨hc, taken, rest, rfl, hall, rfl⟩)
        · exact ⟨[], c :: text, rfl, by simp, rfl⟩
        · exact ⟨c :: taken, rest, rfl, List.forall_mem_cons.mpr ⟨hc, hall⟩, by rw [lastOr_cons]⟩
    rw [hcons, runEnds]
    by_cases hc : accepts c = true
    · rw [if_pos hc, ih, List.mem_cons, or_comm (a := stop = _), or_assoc]
      simp only [hc, true_and]
    · rw [if_neg hc, List.mem_cons, or_comm]
      simp only [hc, Bool.false_eq_true, false_and, or_false]

/-- Places that are put in front of given ones, place by place, are put there all at once. -/
theorem foldr_eq_flatMap_append {ends : Cursor → List Cursor → List Cursor}
    (h : ∀ place after, ends place after = ends place [] ++ after) (places after : List Cursor) :
    places.foldr ends after = places.flatMap (ends · []) ++ after := by
  induction places with
  | nil => rfl
  | cons first places ih => rw [List.foldr_cons, h, ih, List.flatMap_cons, List.append_assoc]

theorem manyEnds_eq_append (step : Cursor → List Cursor) (limit : Nat) (place : Cursor) (after : List Cursor) :
    manyEnds step limit place after = manyEnds step limit place [] ++ after := by
  induction limit generalizing place after with
  | zero => rfl
  | succ limit ih =>
    rw [manyEnds, manyEnds, foldr_eq_flatMap_append ih, foldr_eq_flatMap_append ih, List.append_assoc,
      List.singleton_append]

theorem manyEnds_succ (step : Cursor → List Cursor) (limit : Nat) (place : Cursor) :
    manyEnds step (limit + 1) place [] = (step place).flatMap (manyEnds step limit · []) ++ [place] := by
  rw [manyEnds, foldr_eq_flatMap_append (manyEnds_eq_append step limit)]

theorem self_mem_manyEnds (step : Cursor → List Cursor) (limit : Nat) (place : Cursor) :
    place ∈ manyEnds step limit place [] := by
  cases limit with
  | zero => exact List.mem_singleton_self place
  | succ limit =>
    rw [manyEnds_succ]
    exact List.mem_append_right _ (List.mem_singleton_self place)

/-- Taking some characters and then others is taking both. -/
theorem Reached.append {step next both : Condition} {start middle stop : Cursor} {left right : List Char}
    (first : Reached step start middle left) (second : Reached next middle stop right)
    (takes : both start.before (left ++ right) stop.rest) : Reached both start stop (left ++ right) where
  rest := by rw [first.rest, second.rest, List.append_assoc]
  before := by rw [second.before, first.before, lastOr_append]
  takes := takes

/-- Repetitions take pieces, each of which the body can take. -/
theorem exists_reached_of_mem_manyEnds {step : Cursor → List Cursor} {takes : Condition}
    (sound : ∀ start stop, stop ∈ step start → ∃ taken, Reached takes start stop taken) {limit : Nat}
    {start stop : Cursor} (h : stop ∈ manyEnds step limit start []) :
    ∃ taken, Reached (Repeats takes) start stop taken := by
  have hnone (place : Cursor) : Reached (Repeats takes) place place [] := ⟨rfl, rfl, Repeats.none _ _⟩
  induction limit generalizing start with
  | zero =>
    cases List.mem_singleton.mp h
    exact ⟨[], hnone stop⟩
  | succ limit ih =>
    rw [manyEnds_succ, List.mem_append, List.mem_flatMap, List.mem_singleton] at h
    rcases h with ⟨middle, hmiddle, hstop⟩ | rfl
    · obtain ⟨left, hleft⟩ := sound start middle hmiddle
      obtain ⟨right, hright⟩ := ih hstop
      refine ⟨left ++ right, hleft.append hright (Repeats.more ?_ ?_)⟩
      · rw [← hright.rest]
        exact hleft.takes
      · rw [← hleft.before]
        exact hright.takes
    · exact ⟨[], hnone stop⟩

/-- Every place where a pattern can end is reached by taking what the pattern can take. -/
theorem exists_reached_of_mem_ends {pattern : Pattern} {start stop : Cursor} (h : stop ∈ pattern.ends start) :
    ∃ taken, Reached pattern.Takes start stop taken := by
  induction pattern generalizing start stop with
  | empty =>
    cases List.mem_singleton.mp h
    exact ⟨[], rfl, rfl, rfl⟩
  | one accepts =>
    cases hrest : start.rest with
    | nil => simp [ends, hrest] at h
    | cons c rest =>
      simp only [ends, hrest, List.mem_ite_nil_right, List.mem_singleton] at h
      obtain ⟨hc, rfl⟩ := h
      exact ⟨[c], hrest, rfl, c, rfl, hc⟩
  | run accepts reluctant =>
    have hmem : stop ∈ runEnds accepts start.captures start.before start.rest [] := by
      cases reluctant with
      | false => exact h
      | true => exact List.mem_reverse.mp h
    rcases mem_runEnds.mp hmem with hnil | ⟨taken, rest, hrest, hall, rfl⟩
    · exact absurd hnil List.not_mem_nil
    · exact ⟨taken, hrest, rfl, hall⟩
  | between holds =>
    simp only [ends, List.mem_ite_nil_right, List.mem_singleton] at h
    obtain ⟨hholds, rfl⟩ := h
    exact ⟨[], rfl, rfl, rfl, hholds⟩
  | seq first second ihfirst ihsecond =>
    obtain ⟨middle, hmiddle, hstop⟩ := List.mem_flatMap.mp h
    obtain ⟨left, hleft⟩ := ihfirst hmiddle
    obtain ⟨right, hright⟩ := ihsecond hstop
    refine ⟨left ++ right, hleft.append hright ⟨left, right, rfl, ?_, ?_⟩⟩
    · rw [← hright.rest]
      exact hleft.takes
    · rw [← hleft.before]
      exact hright.takes
  | alt first second ihfirst ihsecond =>
    rcases List.mem_append.mp h with hfirst | hsecond
    · obtain ⟨taken, hrest, hbefore, htakes⟩ := ihfirst hfirst
      exact ⟨taken, hrest, hbefore, Or.inl htakes⟩
    · obtain ⟨taken, hrest, hbefore, htakes⟩ := ihsecond hsecond
      exact ⟨taken, hrest, hbefore, Or.inr htakes⟩
  | many body ih => exact exists_reached_of_mem_manyEnds (fun _ _ ↦ ih) h
  | capture label body ih =>
    obtain ⟨place, hplace, rfl⟩ := List.mem_map.mp h
    obtain ⟨taken, hrest, hbefore, htakes⟩ := ih hplace
    exact ⟨taken, hrest, hbefore, htakes⟩

/-- A limit that is as large as the number of characters does not cut repetitions short: pieces without characters lead
nowhere, and there cannot be more of the others. -/
theorem exists_mem_manyEnds {step : Cursor → List Cursor} {takes : Condition}
    (complete : ∀ (start : Cursor) (taken rest : List Char), start.rest = taken ++ rest →
      takes start.before taken rest → ∃ stop ∈ step start, stop.rest = rest ∧ stop.before = lastOr start.before taken)
    {before : Option Char} {taken rest : List Char} (h : Repeats takes before taken rest) {limit : Nat}
    (hlimit : taken.length ≤ limit) {start : Cursor} (hbefore : start.before = before)
    (hrest : start.rest = taken ++ rest) :
    ∃ stop ∈ manyEnds step limit start [], stop.rest = rest ∧ stop.before = lastOr before taken := by
  induction h generalizing limit start with
  | none before rest => exact ⟨start, self_mem_manyEnds step limit start, hrest, hbefore⟩
  | @more before piece taken rest first others ih =>
    subst hbefore
    by_cases hpiece : piece = []
    · subst hpiece
      exact ih hlimit rfl hrest
    · have hpos : 0 < piece.length := List.length_pos_iff.mpr hpiece
      rw [List.length_append] at hlimit
      rw [List.append_assoc] at hrest
      obtain ⟨middle, hmiddle, hmiddleRest, hmiddleBefore⟩ := complete start piece _ hrest first
      obtain ⟨smaller, rfl⟩ : ∃ smaller, limit = smaller + 1 := ⟨limit - 1, by omega⟩
      have hsmaller : taken.length ≤ smaller := by omega
      obtain ⟨stop, hstop, hstopRest, hstopBefore⟩ := ih hsmaller hmiddleBefore hmiddleRest
      refine ⟨stop, ?_, hstopRest, by rw [hstopBefore, lastOr_append]⟩
      rw [manyEnds_succ]
      exact List.mem_append_left _ (List.mem_flatMap.mpr ⟨middle, hmiddle, hstop⟩)

/-- What a pattern can take leads to a place where it can end. -/
theorem exists_mem_ends {pattern : Pattern} {start : Cursor} {taken rest : List Char}
    (hrest : start.rest = taken ++ rest) (h : pattern.Takes start.before taken rest) :
    ∃ stop ∈ pattern.ends start, stop.rest = rest ∧ stop.before = lastOr start.before taken := by
  induction pattern generalizing start taken rest with
  | empty =>
    cases h
    exact ⟨start, List.mem_singleton_self start, hrest, rfl⟩
  | one accepts =>
    obtain ⟨c, rfl, hc⟩ := h
    refine ⟨⟨some c, rest, start.captures⟩, ?_, rfl, rfl⟩
    simp [ends, hrest, hc]
  | run accepts reluctant =>
    have hmem : ⟨lastOr start.before taken, rest, start.captures⟩ ∈
        runEnds accepts start.captures start.before start.rest [] :=
      mem_runEnds.mpr (Or.inr ⟨taken, rest, hrest, h, rfl⟩)
    refine ⟨⟨lastOr start.before taken, rest, start.captures⟩, ?_, rfl, rfl⟩
    cases reluctant with
    | false => exact hmem
    | true => exact List.mem_reverse.mpr hmem
  | between holds =>
    obtain ⟨rfl, hholds⟩ := h
    refine ⟨start, ?_, hrest, rfl⟩
    rw [ends, hrest, List.nil_append, if_pos hholds]
    exact List.mem_singleton_self start
  | seq first second ihfirst ihsecond =>
    obtain ⟨left, right, rfl, hleft, hright⟩ := h
    rw [List.append_assoc] at hrest
    obtain ⟨middle, hmiddle, hmiddleRest, hmiddleBefore⟩ := ihfirst hrest hleft
    rw [← hmiddleBefore] at hright
    obtain ⟨stop, hstop, hstopRest, hstopBefore⟩ := ihsecond hmiddleRest hright
    exact ⟨stop, List.mem_flatMap.mpr ⟨middle, hmiddle, hstop⟩, hstopRest,
      by rw [hstopBefore, hmiddleBefore, lastOr_append]⟩
  | alt first second ihfirst ihsecond =>
    rcases h with hfirst | hsecond
    · obtain ⟨stop, hstop, hplace⟩ := ihfirst hrest hfirst
      exact ⟨stop, List.mem_append_left _ hstop, hplace⟩
    · obtain ⟨stop, hstop, hplace⟩ := ihsecond hrest hsecond
      exact ⟨stop, List.mem_append_right _ hstop, hplace⟩
  | many body ih =>
    have hlimit : taken.length ≤ start.rest.length := by
      rw [hrest, List.length_append]
      exact Nat.le_add_right _ _
    exact exists_mem_manyEnds (fun _ _ _ ↦ ih) h hlimit rfl hrest
  | capture label body ih =>
    obtain ⟨stop, hstop, hplace⟩ := ih hrest h
    exact ⟨_, List.mem_map_of_mem hstop, hplace⟩

/-! ## Occurrences -/

/-- There is a match at a place exactly if the pattern can take some characters there. -/
theorem isSome_matchAt?_iff {pattern : Pattern} {before : Option Char} {text : List Char} :
    (pattern.matchAt? before text).isSome = true ↔
      ∃ taken rest, text = taken ++ rest ∧ pattern.Takes before taken rest := by
  rw [matchAt?, Option.isSome_map, List.isSome_head?]
  constructor
  · intro hends
    obtain ⟨stop, hstop⟩ := List.exists_mem_of_ne_nil _ hends
    obtain ⟨taken, hrest, -, htakes⟩ := exists_reached_of_mem_ends hstop
    exact ⟨taken, stop.rest, hrest, htakes⟩
  · rintro ⟨taken, rest, htext, htakes⟩
    have hrest : (⟨before, text, []⟩ : Cursor).rest = taken ++ rest := htext
    obtain ⟨stop, hstop, -⟩ := exists_mem_ends hrest htakes
    exact List.ne_nil_of_mem hstop

theorem isSome_searchFrom?_iff {pattern : Pattern} {before : Option Char} {text : List Char} :
    (pattern.searchFrom? before text).isSome = true ↔
      ∃ passed later, text = passed ++ later ∧ (pattern.matchAt? (lastOr before passed) later).isSome = true := by
  induction text generalizing before with
  | nil =>
    rw [searchFrom?]
    constructor
    · intro h
      exact ⟨[], [], rfl, h⟩
    · rintro ⟨passed, later, htext, h⟩
      obtain ⟨rfl, rfl⟩ := List.append_eq_nil_iff.mp htext.symm
      exact h
  | cons c text ih =>
    have hsplit : (pattern.searchFrom? before (c :: text)).isSome = true ↔
        (pattern.matchAt? before (c :: text)).isSome = true ∨ (pattern.searchFrom? (some c) text).isSome = true := by
      rw [searchFrom?]
      cases pattern.matchAt? before (c :: text) <;> simp
    rw [hsplit, ih]
    constructor
    · rintro (h | ⟨passed, later, rfl, h⟩)
      · exact ⟨[], c :: text, rfl, h⟩
      · exact ⟨c :: passed, later, rfl, by rwa [lastOr_cons]⟩
    · rintro ⟨passed, later, htext, h⟩
      rcases List.cons_eq_append_iff.mp htext with ⟨rfl, rfl⟩ | ⟨passed, rfl, rfl⟩
      · exact Or.inl h
      · rw [lastOr_cons] at h
        exact Or.inr ⟨passed, later, rfl, h⟩

/-- A pattern occurs in a text exactly when it can take a part of the text where that part stands. -/
theorem occursIn_iff {pattern : Pattern} {text : List Char} :
    pattern.occursIn text = true ↔
      ∃ passed taken rest, text = passed ++ (taken ++ rest) ∧ pattern.Takes passed.getLast? taken rest := by
  have hlast (passed : List Char) : lastOr none passed = passed.getLast? := Option.or_none
  rw [occursIn, search?, isSome_searchFrom?_iff]
  simp only [isSome_matchAt?_iff, hlast]
  constructor
  · rintro ⟨passed, later, rfl, taken, rest, rfl, htakes⟩
    exact ⟨passed, taken, rest, rfl, htakes⟩
  · rintro ⟨passed, taken, rest, rfl, htakes⟩
    exact ⟨passed, taken ++ rest, rfl, taken, rest, rfl, htakes⟩

/-! ## Patterns and their surroundings -/

/-- Whether the pattern asks nothing of the characters around those that it takes. -/
def ignoresSurroundings : Pattern → Bool
  | between _ => false
  | seq first second | alt first second => first.ignoresSurroundings && second.ignoresSurroundings
  | many body | capture _ body => body.ignoresSurroundings
  | _ => true

/-- A pattern that ignores its surroundings takes the same characters anywhere. -/
theorem Takes.moved {pattern : Pattern} (ignores : pattern.ignoresSurroundings = true) {before : Option Char}
    {taken rest : List Char} (h : pattern.Takes before taken rest) (before' : Option Char) (rest' : List Char) :
    pattern.Takes before' taken rest' := by
  induction pattern generalizing before taken rest before' rest' with
  | empty => exact h
  | one accepts => exact h
  | run accepts reluctant => exact h
  | between holds => cases ignores
  | seq first second ihfirst ihsecond =>
    obtain ⟨hfirst, hsecond⟩ := Bool.and_eq_true_iff.mp ignores
    obtain ⟨left, right, rfl, hleft, hright⟩ := h
    exact ⟨left, right, rfl, ihfirst hfirst hleft _ _, ihsecond hsecond hright _ _⟩
  | alt first second ihfirst ihsecond =>
    obtain ⟨hfirst, hsecond⟩ := Bool.and_eq_true_iff.mp ignores
    rcases h with h | h
    · exact Or.inl (ihfirst hfirst h _ _)
    · exact Or.inr (ihsecond hsecond h _ _)
  | many body ih =>
    change Repeats body.Takes before' taken rest'
    induction h generalizing before' with
    | none before rest => exact Repeats.none _ _
    | more first others ihothers => exact Repeats.more (ih ignores first _ _) (ihothers _)
  | capture label body ih => exact ih ignores h before' rest'

/-- A pattern that ignores its surroundings occurs in a text if it occurs in a part of it. -/
theorem occursIn_of_infix {pattern : Pattern} (ignores : pattern.ignoresSurroundings = true) {part text : List Char}
    (hpart : part <:+: text) (h : pattern.occursIn part = true) : pattern.occursIn text = true := by
  obtain ⟨front, back, rfl⟩ := hpart
  obtain ⟨passed, taken, rest, rfl, htakes⟩ := occursIn_iff.mp h
  refine occursIn_iff.mpr ⟨front ++ passed, taken, rest ++ back, ?_, htakes.moved ignores _ _⟩
  simp only [List.append_assoc]

theorem anyOccursIn_of_infix {patterns : List Pattern} (ignore : patterns.all ignoresSurroundings = true)
    {part text : List Char} (hpart : part <:+: text) (h : anyOccursIn patterns part = true) :
    anyOccursIn patterns text = true := by
  obtain ⟨pattern, hpattern, hoccurs⟩ := List.any_eq_true.mp h
  exact List.any_eq_true.mpr
    ⟨pattern, hpattern, occursIn_of_infix (List.all_eq_true.mp ignore pattern hpattern) hpart hoccurs⟩

/-! ## Literal texts -/

theorem takes_foldr_one {characters : List Char} {before : Option Char} {taken rest : List Char} :
    (characters.foldr (fun c pattern ↦ one (· == c) ++ pattern) empty).Takes before taken rest ↔
      taken = characters := by
  induction characters generalizing before taken with
  | nil => exact Iff.rfl
  | cons c characters ih =>
    constructor
    · rintro ⟨left, right, rfl, ⟨d, rfl, hd⟩, hright⟩
      rw [ih.mp hright, beq_iff_eq.mp hd]
      rfl
    · rintro rfl
      exact ⟨[c], characters, rfl, ⟨c, rfl, beq_self_eq_true c⟩, ih.mpr rfl⟩

/-- A literal text occurs in a text exactly when it is a part of it. -/
theorem occursIn_lit_iff {word : String} {text : List Char} :
    (lit word).occursIn text = true ↔ word.toList <:+: text := by
  rw [occursIn_iff]
  constructor
  · rintro ⟨passed, taken, rest, rfl, htakes⟩
    rw [← takes_foldr_one.mp htakes]
    exact ⟨passed, rest, List.append_assoc _ _ _⟩
  · rintro ⟨passed, rest, rfl⟩
    exact ⟨passed, word.toList, rest, List.append_assoc _ _ _, takes_foldr_one.mpr rfl⟩

/-- A choice takes what one of its patterns takes. -/
theorem takes_choice_iff {patterns : List Pattern} {before : Option Char} {taken rest : List Char} :
    (choice patterns).Takes before taken rest ↔ ∃ pattern ∈ patterns, pattern.Takes before taken rest := by
  fun_induction choice patterns with
  | case1 => simp [Takes]
  | case2 pattern => simp
  | case3 pattern next patterns ih =>
    rw [List.exists_mem_cons_iff, ← ih]
    exact Iff.rfl

theorem takes_words_iff {texts : List String} {before : Option Char} {taken rest : List Char} :
    (words texts).Takes before taken rest ↔ ∃ text ∈ texts, taken = text.toList := by
  rw [words, takes_choice_iff]
  simp only [List.mem_map, exists_exists_and_eq_and]
  exact exists_congr fun text ↦ and_congr_right fun _ ↦ takes_foldr_one

end ContractAudit.Pattern
