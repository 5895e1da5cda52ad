import ContractAudit.Proofs.FirstMatch
import ContractAudit.Rule.Gas
import Mathlib.Algebra.Ring.Nat
import Mathlib.Data.Nat.Count
import Mathlib.Data.Finset.Card
import Mathlib.Data.List.TakeWhile

/-!
# Whole words

A word stands at a place of a text if its characters follow there and no word character comes right before or behind
them. The scan for the words of a line takes runs of word characters, each up to its end, so it finds a word as often as
there are places where the word stands. The search for one name goes through all places and finds it as often. A line
feed is no word character: whether the lines of a text are scanned one by one or taken together makes no difference.
-/

namespace ContractAudit

namespace Text

variable {accepts : Char → Bool}

theorem drop_length_takeWhile (text : List Char) :
    text.drop (text.takeWhile accepts).length = text.dropWhile accepts := by
  have hdrop : (text.takeWhile accepts ++ text.dropWhile accepts).drop (text.takeWhile accepts).length =
      text.dropWhile accepts := List.drop_left
  rwa [List.takeWhile_append_dropWhile] at hdrop

theorem takeWhile_append_cons {c : Char} (hc : accepts c = false) (first second : List Char) :
    (first ++ c :: second).takeWhile accepts = first.takeWhile accepts := by
  rw [List.takeWhile_append, List.takeWhile_cons_of_neg (Bool.eq_false_iff.mp hc), List.append_nil]
  split
  · next hall => exact ((List.takeWhile_prefix accepts).eq_of_length hall).symm
  · rfl

end Text

namespace Rule.Gas

open Text Pattern

/-! ## Places of a word -/

def IsWord (name : List Char) : Prop := name ≠ [] ∧ ∀ c ∈ name, isWordCharacter c = true

/-- The name stands in the text as a whole word, behind that many characters. The character before the text counts as
its neighbour. -/
def StandsAt (name : List Char) (before : Option Char) (text : List Char) (offset : Nat) : Prop :=
  (lastOr before (text.take offset)).any isWordCharacter = false ∧ name <+: text.drop offset ∧
    (text.drop (offset + name.length)).head?.any isWordCharacter = false

instance (name : List Char) (before : Option Char) (text : List Char) : DecidablePred (StandsAt name before text) :=
  fun _ ↦ inferInstanceAs (Decidable (_ ∧ _ ∧ _))

variable {name : List Char} {before : Option Char} {text rest : List Char} {c : Char} {offset : Nat}

theorem standsAt_succ : StandsAt name before (c :: rest) (offset + 1) ↔ StandsAt name (some c) rest offset := by
  rw [StandsAt, StandsAt, List.take_succ_cons, lastOr_cons, List.drop_succ_cons, Nat.add_right_comm,
    List.drop_succ_cons]

theorem StandsAt.lt_length (hname : IsWord name) (h : StandsAt name before text offset) : offset < text.length := by
  by_contra hlength
  obtain ⟨-, hprefix, -⟩ := h
  rw [List.drop_eq_nil_of_le (Nat.le_of_not_lt hlength), List.prefix_nil] at hprefix
  exact hname.1 hprefix

theorem standsAt_append {front behind : List Char} (hfront : (lastOr before front).any isWordCharacter = false)
    (hbehind : behind.head?.any isWordCharacter = false) :
    StandsAt name before (front ++ (name ++ behind)) front.length := by
  refine ⟨?_, ?_, ?_⟩
  · rwa [List.take_left]
  · rw [List.drop_left]
    exact List.prefix_append name behind
  · rwa [← List.drop_drop, List.drop_left, List.drop_left]

/-- A word that stands first is all of the run of word characters there. -/
theorem standsAt_zero_iff (hname : IsWord name) :
    StandsAt name before text 0 ↔ before.any isWordCharacter = false ∧ text.takeWhile isWordCharacter = name := by
  refine and_congr Iff.rfl ?_
  rw [List.drop_zero, Nat.zero_add]
  constructor
  · rintro ⟨⟨behind, rfl⟩, hbehind⟩
    rw [List.drop_left, Option.any_eq_false] at hbehind
    exact (takeWhile_append_of_stop hname.2 hbehind).1
  · rintro rfl
    refine ⟨List.takeWhile_prefix _, ?_⟩
    rw [drop_length_takeWhile, Option.any_eq_false]
    exact head?_dropWhile_stop

/-- How often a name stands in a text as a whole word. -/
def occurrences (name : List Char) (before : Option Char) (text : List Char) : Nat :=
  Nat.count (StandsAt name before text) text.length

theorem occurrences_cons : occurrences name before (c :: rest) =
    occurrences name (some c) rest + if StandsAt name before (c :: rest) 0 then 1 else 0 := by
  rw [occurrences, List.length_cons, Nat.count_succ']
  simp only [standsAt_succ]
  rfl

/-- A word that comes once stands at exactly one place. -/
theorem occurrences_eq_one_iff (hname : IsWord name) :
    occurrences name before text = 1 ↔ ∃! offset, StandsAt name before text offset := by
  have hmem (offset : Nat) : offset ∈ (Finset.range text.length).filter (StandsAt name before text) ↔
      StandsAt name before text offset := by
    rw [Finset.mem_filter, Finset.mem_range]
    exact and_iff_right_of_imp fun h ↦ h.lt_length hname
  rw [occurrences, Nat.count_eq_card_filter_range, Finset.card_eq_one, Finset.singleton_iff_unique_mem]
  simp only [hmem]

theorem StandsAt.occurrences_pos (hname : IsWord name) (h : StandsAt name before text offset) :
    0 < occurrences name before text :=
  Nat.lt_of_le_of_lt (Nat.zero_le _) (Nat.count_strict_mono h (h.lt_length hname))

/-- A word starts at the place between a character and a text. -/
def StartsWord (before : Option Char) (text : List Char) : Prop :=
  before.any isWordCharacter = false ∧ text.head?.any isWordCharacter = true

theorem IsWord.any_head?_append {run : List Char} (hrun : IsWord run) (rest : List Char) :
    (run ++ rest).head?.any isWordCharacter = true := by
  obtain ⟨c, others, rfl⟩ := List.exists_cons_of_ne_nil hrun.1
  exact hrun.2 c List.mem_cons_self

theorem IsWord.length_lt_append {run : List Char} (hrun : IsWord run) (rest : List Char) :
    rest.length < (run ++ rest).length := by
  rw [List.length_append]
  exact Nat.lt_add_of_pos_left (List.length_pos_iff.mpr hrun.1)

theorem StandsAt.startsWord (hname : IsWord name) (h : StandsAt name before text 0) : StartsWord before text := by
  obtain ⟨hbefore, ⟨behind, rfl⟩, -⟩ := h
  exact ⟨hbefore, hname.any_head?_append behind⟩

/-- The run is a word, and it cannot be extended into the character before it or into the text behind it. -/
structure WordBetween (before : Option Char) (run rest : List Char) : Prop where
  isWord : IsWord run
  starts : before.any isWordCharacter = false
  stops : ∀ c ∈ rest.head?, isWordCharacter c = false

/-- Where a word starts, all of it can be split off. -/
theorem StartsWord.exists_wordBetween (h : StartsWord before text) :
    ∃ run rest, text = run ++ rest ∧ WordBetween before run rest := by
  refine ⟨_, _, List.takeWhile_append_dropWhile.symm, ⟨?_, fun c ↦ List.mem_takeWhile_imp⟩, h.1, head?_dropWhile_stop⟩
  cases text with
  | nil => cases h.2
  | cons c rest =>
    have hc : isWordCharacter c = true := h.2
    rw [List.takeWhile_cons_of_pos hc]
    exact List.cons_ne_nil _ _

theorem occurrences_cons_of_not_startsWord (hname : IsWord name) (hstart : ¬ StartsWord before (c :: rest)) :
    occurrences name before (c :: rest) = occurrences name (some c) rest := by
  rw [occurrences_cons, if_neg fun h ↦ hstart (h.startsWord hname), Nat.add_zero]

/-- No word stands inside a run of word characters. -/
theorem occurrences_inside {tail : List Char} (hname : IsWord name) (hbefore : before.any isWordCharacter = true)
    (hinside : ∀ c ∈ tail, isWordCharacter c = true) :
    occurrences name before (tail ++ rest) = occurrences name (lastOr before tail) rest := by
  induction tail generalizing before with
  | nil => rfl
  | cons c tail ih =>
    obtain ⟨hc, htail⟩ := List.forall_mem_cons.mp hinside
    rw [List.cons_append, lastOr_cons]
    calc occurrences name before (c :: (tail ++ rest))
      _ = occurrences name (some c) (tail ++ rest) :=
        occurrences_cons_of_not_startsWord hname fun h ↦ Bool.false_ne_true (h.1.symm.trans hbefore)
      _ = occurrences name (lastOr (some c) tail) rest := ih hc htail

/-- A run of word characters counts if it is the name. -/
theorem occurrences_append {run : List Char} (hname : IsWord name) (hrun : WordBetween before run rest) :
    occurrences name before (run ++ rest) =
      occurrences name (lastOr before run) rest + if run = name then 1 else 0 := by
  have hstands : StandsAt name before (run ++ rest) 0 ↔ run = name := by
    rw [standsAt_zero_iff hname, (takeWhile_append_of_stop hrun.isWord.2 hrun.stops).1]
    exact and_iff_right hrun.starts
  obtain ⟨c, others, rfl⟩ := List.exists_cons_of_ne_nil hrun.isWord.1
  obtain ⟨hc, hothers⟩ := List.forall_mem_cons.mp hrun.isWord.2
  have hinside : occurrences name (some c) (others ++ rest) = occurrences name (lastOr (some c) others) rest :=
    occurrences_inside hname hc hothers
  rw [← if_congr hstands rfl rfl, List.cons_append, occurrences_cons, hinside, lastOr_cons]

/-! ## The scan for words -/

theorem WordBetween.prefers_edge_before {run : List Char} (hrun : WordBetween before run rest) :
    edge.Prefers ⟨before, run ++ rest, []⟩ ⟨before, run ++ rest, []⟩ := by
  apply prefers_between
  rw [hrun.starts, hrun.isWord.any_head?_append]
  rfl

theorem WordBetween.prefers_edge_behind {run : List Char} (hrun : WordBetween before run rest) :
    edge.Prefers ⟨lastOr before run, rest, []⟩ ⟨lastOr before run, rest, []⟩ := by
  apply prefers_between
  obtain ⟨c, hc, hlast⟩ := exists_lastOr_eq_some hrun.isWord.1 before
  rw [hlast, Option.any_some, hrun.isWord.2 c hc, (Option.any_eq_false _ _).mpr hrun.stops]
  rfl

/-- A match starts where a run of word characters starts, and ends where the run ends. -/
theorem exists_matchAt?_wholeWord {run : List Char} (hrun : WordBetween before run rest) :
    ∃ found, wholeWord.matchAt? before (run ++ rest) = some found ∧ found.length = run.length ∧
      found.start = run ++ rest := by
  have hword : word.Prefers ⟨before, run ++ rest, []⟩ ⟨lastOr before run, rest, []⟩ :=
    prefers_some1 hrun.isWord.1 hrun.isWord.2 hrun.stops
  refine ⟨_, ((hrun.prefers_edge_before.append hword).append hrun.prefers_edge_behind).matchAt?_eq, ?_, rfl⟩
  rw [Match.length, List.length_append, Nat.add_sub_cancel]

theorem matchAt?_wholeWord_eq_none (hstart : ¬ StartsWord before text) : wholeWord.matchAt? before text = none := by
  rw [← Option.not_isSome_iff_eq_none, isSome_matchAt?_iff]
  rintro ⟨taken, rest, rfl, _, _, rfl, ⟨_, run, rfl, ⟨rfl, hedge⟩, hrun⟩, rfl, -⟩
  simp only [List.nil_append, List.append_nil] at hedge hstart
  have hrun : IsWord run := takes_some1_iff.mp hrun
  cases hbefore : before.any isWordCharacter with
  | false => exact hstart ⟨hbefore, hrun.any_head?_append rest⟩
  | true =>
    rw [hbefore, hrun.any_head?_append] at hedge
    cases hedge

theorem matchesFrom_length_append (pattern : Pattern) (before : Option Char) (taken rest : List Char) :
    pattern.matchesFrom taken.length before (taken ++ rest) = pattern.matchesFrom 0 (lastOr before taken) rest := by
  induction taken generalizing before with
  | nil => rfl
  | cons c taken ih => rw [List.length_cons, List.cons_append, matchesFrom, ih, lastOr_cons]

/-- The scan goes on behind a match. -/
theorem matchesFrom_append {pattern : Pattern} {taken : List Char} {found : Match} (hne : taken ≠ [])
    (hfound : pattern.matchAt? before (taken ++ rest) = some found) (hlength : found.length = taken.length) :
    pattern.matchesFrom 0 before (taken ++ rest) = found :: pattern.matchesFrom 0 (lastOr before taken) rest := by
  obtain ⟨c, others, rfl⟩ := List.exists_cons_of_ne_nil hne
  rw [List.cons_append] at hfound ⊢
  rw [matchesFrom, hfound]
  dsimp only
  rw [hlength, List.length_cons, Nat.add_sub_cancel, matchesFrom_length_append, lastOr_cons]

def wordsFrom (before : Option Char) (text : List Char) : List (List Char) :=
  (wholeWord.matchesFrom 0 before text).map fun found ↦ found.start.take found.length

theorem wordsFrom_cons_of_not_startsWord (hstart : ¬ StartsWord before (c :: rest)) :
    wordsFrom before (c :: rest) = wordsFrom (some c) rest := by
  rw [wordsFrom, matchesFrom, matchAt?_wholeWord_eq_none hstart, wordsFrom]

/-- The scan takes a run of word characters as one word. -/
theorem wordsFrom_append {run : List Char} (hrun : WordBetween before run rest) :
    wordsFrom before (run ++ rest) = run :: wordsFrom (lastOr before run) rest := by
  obtain ⟨found, hfound, hlength, hstart⟩ := exists_matchAt?_wholeWord hrun
  rw [wordsFrom, matchesFrom_append hrun.isWord.1 hfound hlength, List.map_cons, hstart, hlength, List.take_left,
    wordsFrom]

/-- The scan finds a word as often as the word stands in the text. -/
theorem count_wordsFrom (hname : IsWord name) (before : Option Char) (text : List Char) :
    (wordsFrom before text).count name = occurrences name before text := by
  induction hlength : text.length using Nat.strong_induction_on generalizing before text with
  | _ length ih =>
    subst hlength
    by_cases hstart : StartsWord before text
    · obtain ⟨run, rest, rfl, hrun⟩ := hstart.exists_wordBetween
      have hshorter := hrun.isWord.length_lt_append rest
      calc (wordsFrom before (run ++ rest)).count name
        _ = (run :: wordsFrom (lastOr before run) rest).count name := by rw [wordsFrom_append hrun]
        _ = occurrences name (lastOr before run) rest + if run = name then 1 else 0 := by
          rw [List.count_cons, ih rest.length hshorter _ _ rfl]
          simp only [beq_iff_eq]
        _ = occurrences name before (run ++ rest) := (occurrences_append hname hrun).symm
    · cases text with
      | nil =>
        rw [wordsFrom, matchesFrom, matchAt?_wholeWord_eq_none hstart]
        rfl
      | cons c rest =>
        rw [wordsFrom_cons_of_not_startsWord hstart, occurrences_cons_of_not_startsWord hname hstart]
        exact ih rest.length (Nat.lt_succ_self _) _ _ rfl

theorem count_wordsOf (hname : IsWord name) (line : Line) : (wordsOf line).count name = occurrences name none line :=
  count_wordsFrom hname none line

/-! ## The search for a name -/

/-- There is an edge before a word where no word character comes before it. -/
theorem edge_before_iff (hname : IsWord name) :
    edge.Takes before [] (name ++ rest) ↔ before.any isWordCharacter = false := by
  have hedge : edge.Takes before [] (name ++ rest) ↔
      (before.any isWordCharacter != (name ++ rest).head?.any isWordCharacter) = true := and_iff_right rfl
  rw [hedge, hname.any_head?_append, Bool.bne_true, Bool.not_eq_true']

/-- There is an edge behind a word where no word character comes behind it. -/
theorem edge_behind_iff (hname : IsWord name) :
    edge.Takes (lastOr before name) [] rest ↔ rest.head?.any isWordCharacter = false := by
  obtain ⟨c, hc, hlast⟩ := exists_lastOr_eq_some hname.1 before
  have hedge : edge.Takes (lastOr before name) [] rest ↔
      ((lastOr before name).any isWordCharacter != rest.head?.any isWordCharacter) = true := and_iff_right rfl
  rw [hedge, hlast, Option.any_some, hname.2 c hc, Bool.true_bne, Bool.not_eq_true']

/-- The choice between some words takes a word of them that cannot be extended. -/
theorem takes_anyName_iff (hnames : ∀ name ∈ names, IsWord name) {taken : List Char} :
    (anyName names).Takes before taken rest ↔
      taken ∈ names ∧ before.any isWordCharacter = false ∧ rest.head?.any isWordCharacter = false := by
  constructor
  · rintro ⟨_, _, rfl, ⟨_, _, rfl, ⟨rfl, hfront⟩, hwords⟩, rfl, hbehind⟩
    obtain ⟨text, htext, rfl⟩ := takes_words_iff.mp hwords
    obtain ⟨name, hmem, rfl⟩ := List.mem_map.mp htext
    have hname := hnames name hmem
    simp only [List.nil_append, List.append_nil, String.toList_ofList] at hfront hbehind ⊢
    exact ⟨hmem, (edge_before_iff hname).mp ⟨rfl, hfront⟩, (edge_behind_iff hname).mp ⟨rfl, hbehind⟩⟩
  · rintro ⟨hmem, hfront, hbehind⟩
    have hname := hnames taken hmem
    have hwords : (words (names.map String.ofList)).Takes before taken rest :=
      takes_words_iff.mpr ⟨String.ofList taken, List.mem_map_of_mem hmem, String.toList_ofList.symm⟩
    refine ⟨taken, [], (List.append_nil taken).symm, ⟨[], taken, rfl, ?_, hwords⟩, ?_⟩
    · exact (edge_before_iff hname).mpr hfront
    · exact (edge_behind_iff hname).mpr hbehind

theorem matchAt?_anyName_eq_none (hname : IsWord name) (hstands : ¬ StandsAt name before text 0) :
    (anyName [name]).matchAt? before text = none := by
  rw [← Option.not_isSome_iff_eq_none, isSome_matchAt?_iff]
  rintro ⟨taken, rest, rfl, htakes⟩
  obtain ⟨hmem, hbefore, hrest⟩ := (takes_anyName_iff (List.forall_mem_singleton.mpr hname)).mp htakes
  obtain rfl : taken = name := List.mem_singleton.mp hmem
  have hfirst : StandsAt taken before ([] ++ (taken ++ rest)) [].length := standsAt_append hbefore hrest
  exact hstands hfirst

theorem exists_matchAt?_anyName (hname : WordBetween before name rest) :
    ∃ found, (anyName [name]).matchAt? before (name ++ rest) = some found ∧ found.length = name.length := by
  have hlit : (words ([name].map String.ofList)).Prefers ⟨before, name ++ rest, []⟩ ⟨lastOr before name, rest, []⟩ :=
    prefers_lit String.toList_ofList
  refine ⟨_, ((hname.prefers_edge_before.append hlit).append hname.prefers_edge_behind).matchAt?_eq, ?_⟩
  rw [Match.length, List.length_append, Nat.add_sub_cancel]

/-- The search finds a name as often as the name stands in the text. -/
theorem length_matchesFrom_anyName (hname : IsWord name) (before : Option Char) (text : List Char) :
    ((anyName [name]).matchesFrom 0 before text).length = occurrences name before text := by
  induction hlength : text.length using Nat.strong_induction_on generalizing before text with
  | _ length ih =>
    subst hlength
    by_cases hstands : StandsAt name before text 0
    · obtain ⟨hbefore, ⟨rest, rfl⟩, hrest⟩ := hstands
      rw [Nat.zero_add, List.drop_left, Option.any_eq_false] at hrest
      have hbetween : WordBetween before name rest := ⟨hname, hbefore, hrest⟩
      have hshorter := hname.length_lt_append rest
      obtain ⟨found, hfound, hlength⟩ := exists_matchAt?_anyName hbetween
      calc ((anyName [name]).matchesFrom 0 before (name ++ rest)).length
        _ = (found :: (anyName [name]).matchesFrom 0 (lastOr before name) rest).length := by
          rw [matchesFrom_append hname.1 hfound hlength]
        _ = occurrences name (lastOr before name) rest + 1 := by
          rw [List.length_cons, ih rest.length hshorter _ _ rfl]
        _ = occurrences name before (name ++ rest) := by rw [occurrences_append hname hbetween, if_pos rfl]
    · cases text with
      | nil =>
        rw [matchesFrom, matchAt?_anyName_eq_none hname hstands]
        rfl
      | cons c rest =>
        rw [matchesFrom, matchAt?_anyName_eq_none hname hstands, occurrences_cons, if_neg hstands]
        exact ih rest.length (Nat.lt_succ_self _) _ _ rfl

/-- The pattern of a name finds it on a line as often as it stands there. -/
theorem length_allMatches_anyName (hname : IsWord name) (line : Line) :
    ((anyName [name]).allMatches line).length = occurrences name none line :=
  length_matchesFrom_anyName hname none line

/-! ## Lines -/

/-- A character before the text that is no word character makes no difference. -/
theorem occurrences_some_of_not_isWordCharacter (hname : IsWord name) (hc : isWordCharacter c = false) :
    occurrences name (some c) text = occurrences name none text := by
  have hneighbour : (some c).any isWordCharacter = (none : Option Char).any isWordCharacter := hc
  cases text with
  | nil => rfl
  | cons d rest =>
    rw [occurrences_cons, occurrences_cons]
    simp only [standsAt_zero_iff hname, hneighbour]

/-- A word does not reach over a character that is no word character. -/
theorem occurrences_append_cons {first second : List Char} (hname : IsWord name) (hc : isWordCharacter c = false) :
    occurrences name before (first ++ c :: second) = occurrences name before first + occurrences name none second := by
  induction first generalizing before with
  | nil =>
    have hstart : ¬ StartsWord before (c :: second) := fun h ↦ Bool.false_ne_true (hc.symm.trans h.2)
    rw [List.nil_append, occurrences_cons_of_not_startsWord hname hstart,
      occurrences_some_of_not_isWordCharacter hname hc]
    exact (Nat.zero_add _).symm
  | cons d first ih =>
    have hrun := takeWhile_append_cons hc (d :: first) second
    rw [List.cons_append] at hrun
    rw [List.cons_append, occurrences_cons, occurrences_cons, ih]
    simp only [standsAt_zero_iff hname, hrun]
    omega

/-- The places on several lines add up. -/
theorem occurrences_joinLines (hname : IsWord name) (lines : List Line) :
    occurrences name none (joinLines lines) = (lines.map (occurrences name none)).sum := by
  fun_induction joinLines lines with
  | case1 => rfl
  | case2 line => rw [List.map_singleton, List.sum_singleton]
  | case3 line next lines ih =>
    rw [occurrences_append_cons hname (by decide +kernel), List.map_cons, List.sum_cons, ih]

/-- The words of the lines of a text are the words of the text. -/
theorem sum_count_wordsOf (hname : IsWord name) (lines : List Line) :
    ((lines.map wordsOf).map (List.count name)).sum = occurrences name none (joinLines lines) := by
  rw [occurrences_joinLines hname, List.map_map]
  congr 2
  funext line
  exact count_wordsOf hname line

end Rule.Gas

end ContractAudit
