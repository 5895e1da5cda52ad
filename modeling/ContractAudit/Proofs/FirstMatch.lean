import ContractAudit.Proofs.PatternMatch

/-!
# First matches and what they capture

A search finds the match that starts first, and of the matches that start there the preferred one. Matches keep pieces
of the text under labels. Whatever is kept under a label was taken by a body that stands under it in the pattern, and a
label that stands on every way through the pattern is kept by every match. A run of characters that ends the pattern is
as long as possible, since of all ways to match the longest run is preferred. A pattern whose parts can each go on from
the place that the part before it prefers ends at the last of these places, without ever turning back.
-/

namespace ContractAudit

namespace Text

variable {accepts : Char → Bool} {taken rest : List Char}

/-- Characters of a class that something else follows are the run of that class. -/
theorem takeWhile_append_of_stop (inside : ∀ c ∈ taken, accepts c = true)
    (stop : ∀ c ∈ rest.head?, accepts c = false) :
    (taken ++ rest).takeWhile accepts = taken ∧ (taken ++ rest).dropWhile accepts = rest := by
  rw [List.takeWhile_append_of_pos inside, List.dropWhile_append_of_pos inside]
  cases rest with
  | nil => exact ⟨List.append_nil taken, rfl⟩
  | cons c rest =>
    have hc : ¬ accepts c = true := Bool.not_eq_true _ ▸ stop c rfl
    rw [List.takeWhile_cons_of_neg hc, List.dropWhile_cons_of_neg hc]
    exact ⟨List.append_nil taken, rfl⟩

theorem head?_dropWhile_stop : ∀ c ∈ (rest.dropWhile accepts).head?, accepts c = false := by
  intro c hc
  have hhead := List.head?_dropWhile_not accepts rest
  rw [Option.mem_def.mp hc] at hhead
  exact hhead

end Text

/-- The span is a piece of a text that the pattern can take where the piece stands. -/
def Span.TakenBy (span : Span) (body : Pattern) : Prop :=
  ∃ before taken, span.start = taken ++ span.stop ∧ body.Takes before taken span.stop

theorem Span.text_eq {span : Span} {taken : List Char} (h : span.start = taken ++ span.stop) : span.text = taken := by
  rw [text, h, List.length_append, Nat.add_sub_cancel, List.take_left]

theorem Match.group?_eq {found : Match} {label : Nat} {piece rest : List Char}
    (h : found.stop.captures.lookup label = some ⟨piece ++ rest, rest⟩) : found.group? label = some piece := by
  rw [Match.group?, h, Option.map_some, Span.text_eq rfl]

theorem Match.group_eq {found : Match} {label : Nat} {piece : List Char} (h : found.group? label = some piece) :
    found.group label = piece := by
  rw [Match.group, h, Option.getD_some]

namespace Pattern

/-! ## Where a search stops -/

/-- A match starts where it was looked for, and ends at the preferred place. -/
theorem start_of_matchAt?_eq_some {pattern : Pattern} {before : Option Char} {text : List Char} {found : Match}
    (h : pattern.matchAt? before text = some found) :
    found.start = text ∧ (pattern.ends ⟨before, text, []⟩).head? = some found.stop := by
  obtain ⟨stop, hstop, rfl⟩ := Option.map_eq_some_iff.mp h
  exact ⟨rfl, hstop⟩

/-- A search passes over some characters to a match, and no match starts before it. -/
theorem exists_of_searchFrom?_eq_some {pattern : Pattern} {before : Option Char} {text : List Char} {found : Match}
    (h : pattern.searchFrom? before text = some found) :
    ∃ passed, text = passed ++ found.start ∧ pattern.matchAt? (lastOr before passed) found.start = some found ∧
      ∀ earlier later, text = earlier ++ later → earlier.length < passed.length →
        pattern.matchAt? (lastOr before earlier) later = none := by
  induction text generalizing before with
  | nil =>
    rw [searchFrom?] at h
    have hstart := (start_of_matchAt?_eq_some h).1
    refine ⟨[], hstart.symm, ?_, fun _ _ _ hlt ↦ absurd hlt (Nat.not_lt_zero _)⟩
    rwa [hstart]
  | cons c text ih =>
    rw [searchFrom?] at h
    split at h
    · next _ hmatch =>
      cases h
      have hstart := (start_of_matchAt?_eq_some hmatch).1
      refine ⟨[], hstart.symm, ?_, fun _ _ _ hlt ↦ absurd hlt (Nat.not_lt_zero _)⟩
      rwa [hstart]
    · next hnone =>
      obtain ⟨passed, rfl, hmatch, hfirst⟩ := ih h
      refine ⟨c :: passed, rfl, ?_, ?_⟩
      · rwa [lastOr_cons]
      · intro earlier later htext hlt
        rcases List.cons_eq_append_iff.mp htext with ⟨rfl, rfl⟩ | ⟨earlier, rfl, hrest⟩
        · exact hnone
        · rw [lastOr_cons]
          exact hfirst earlier later hrest (Nat.lt_of_succ_lt_succ hlt)

theorem exists_lastOr_eq_some {taken : List Char} (h : taken ≠ []) (before : Option Char) :
    ∃ c ∈ taken, lastOr before taken = some c :=
  ⟨taken.getLast h, List.getLast_mem h, by rw [lastOr, List.getLast?_eq_some_getLast h, Option.some_or]⟩

theorem ends_append (first second : Pattern) (place : Cursor) :
    (first ++ second).ends place = (first.ends place).flatMap second.ends := rfl

/-- Parts of a pattern may be grouped in any way. -/
theorem matchAt?_append_assoc (first second third : Pattern) (before : Option Char) (text : List Char) :
    (first ++ second ++ third).matchAt? before text = (first ++ (second ++ third)).matchAt? before text := by
  rw [matchAt?, matchAt?, ends_append, ends_append, ends_append, List.flatMap_assoc]
  rfl

/-! ## First words -/

def StartsWith (pattern : Pattern) (word : List Char) : Prop :=
  ∀ before taken rest, pattern.Takes before taken rest → word <+: taken

theorem startsWith_lit (word : String) : (lit word).StartsWith word.toList := by
  intro before taken rest h
  rw [takes_foldr_one.mp h]

theorem StartsWith.append {first second : Pattern} {word : List Char} (h : first.StartsWith word) :
    (first ++ second).StartsWith word := by
  rintro before _ rest ⟨left, right, rfl, hleft, -⟩
  exact (h before left _ hleft).trans (List.prefix_append left right)

/-- A pattern matches nowhere but before its word. -/
theorem StartsWith.matchAt?_eq_none {pattern : Pattern} {word text : List Char} (h : pattern.StartsWith word)
    (hnot : ¬ word <+: text) (before : Option Char) : pattern.matchAt? before text = none := by
  rw [← Option.not_isSome_iff_eq_none, isSome_matchAt?_iff]
  rintro ⟨taken, rest, rfl, htakes⟩
  exact hnot ((h before taken rest htakes).trans (List.prefix_append taken rest))

/-! ## Captures -/

def captureBodies : Pattern → List (Nat × Pattern)
  | seq first second | alt first second => first.captureBodies ++ second.captureBodies
  | many body => body.captureBodies
  | capture label body => (label, body) :: body.captureBodies
  | _ => []

/-- The second place has the captures of the first one, behind others that were taken by the bodies under their
labels. -/
def AddsCaptures (bodies : List (Nat × Pattern)) (start stop : Cursor) : Prop :=
  ∃ added, stop.captures = added ++ start.captures ∧
    ∀ entry ∈ added, ∃ body, (entry.1, body) ∈ bodies ∧ entry.2.TakenBy body

namespace AddsCaptures

variable {bodies others : List (Nat × Pattern)} {start middle stop : Cursor}

theorem of_captures_eq (h : stop.captures = start.captures) : AddsCaptures bodies start stop :=
  ⟨[], h, List.forall_mem_nil _⟩

theorem trans (first : AddsCaptures bodies start middle) (second : AddsCaptures bodies middle stop) :
    AddsCaptures bodies start stop := by
  obtain ⟨added, hmiddle, hadded⟩ := first
  obtain ⟨later, hstop, hlater⟩ := second
  refine ⟨later ++ added, ?_, List.forall_mem_append.mpr ⟨hlater, hadded⟩⟩
  rw [hstop, hmiddle, List.append_assoc]

theorem mono (h : AddsCaptures bodies start stop) (hsubset : bodies ⊆ others) : AddsCaptures others start stop := by
  obtain ⟨added, hstop, hadded⟩ := h
  refine ⟨added, hstop, fun entry hentry ↦ ?_⟩
  obtain ⟨body, hbody, htaken⟩ := hadded entry hentry
  exact ⟨body, hsubset hbody, htaken⟩

theorem mem_captures (h : AddsCaptures bodies start stop) {entry : Nat × Span} (hentry : entry ∈ start.captures) :
    entry ∈ stop.captures := by
  obtain ⟨added, hstop, -⟩ := h
  rw [hstop]
  exact List.mem_append_right added hentry

/-- Repeating a step adds what the step adds. -/
theorem of_mem_manyEnds {step : Cursor → List Cursor}
    (hstep : ∀ start stop, stop ∈ step start → AddsCaptures bodies start stop) {limit : Nat}
    (h : stop ∈ manyEnds step limit start []) : AddsCaptures bodies start stop := by
  induction limit generalizing start with
  | zero =>
    cases List.mem_singleton.mp h
    exact of_captures_eq rfl
  | succ limit ih =>
    rw [manyEnds_succ, List.mem_append, List.mem_flatMap, List.mem_singleton] at h
    rcases h with ⟨middle, hmiddle, hstop⟩ | rfl
    · exact (hstep start middle hmiddle).trans (ih hstop)
    · exact of_captures_eq rfl

end AddsCaptures

/-- A pattern adds captures that its bodies have taken. -/
theorem addsCaptures_of_mem_ends {pattern : Pattern} {start stop : Cursor} (h : stop ∈ pattern.ends start) :
    AddsCaptures pattern.captureBodies start stop := by
  induction pattern generalizing start stop with
  | empty =>
    cases List.mem_singleton.mp h
    exact .of_captures_eq rfl
  | one accepts =>
    cases hrest : start.rest with
    | nil => simp [ends, hrest] at h
    | cons c rest =>
      simp only [ends, hrest, List.mem_ite_nil_right, List.mem_singleton] at h
      obtain ⟨-, rfl⟩ := h
      exact .of_captures_eq rfl
  | run accepts reluctant =>
    have hmem : stop ∈ runEnds accepts start.captures start.before start.rest [] := by
      cases reluctant with
      | false => exact h
      | true => exact List.mem_reverse.mp h
    rcases mem_runEnds.mp hmem with hnil | ⟨taken, rest, -, -, rfl⟩
    · exact absurd hnil List.not_mem_nil
    · exact .of_captures_eq rfl
  | between holds =>
    simp only [ends, List.mem_ite_nil_right, List.mem_singleton] at h
    obtain ⟨-, rfl⟩ := h
    exact .of_captures_eq rfl
  | seq first second ihfirst ihsecond =>
    obtain ⟨middle, hmiddle, hstop⟩ := List.mem_flatMap.mp h
    exact ((ihfirst hmiddle).mono (List.subset_append_left _ _)).trans
      ((ihsecond hstop).mono (List.subset_append_right _ _))
  | alt first second ihfirst ihsecond =>
    rcases List.mem_append.mp h with hfirst | hsecond
    · exact (ihfirst hfirst).mono (List.subset_append_left _ _)
    · exact (ihsecond hsecond).mono (List.subset_append_right _ _)
  | many body ih => exact .of_mem_manyEnds (fun _ _ ↦ ih) h
  | capture label body ih =>
    obtain ⟨place, hplace, rfl⟩ := List.mem_map.mp h
    obtain ⟨taken, hrest, -, htakes⟩ := exists_reached_of_mem_ends hplace
    obtain ⟨added, hcaptures, hadded⟩ := (ih hplace).mono (List.subset_cons_self (label, body) _)
    refine ⟨(label, ⟨start.rest, place.rest⟩) :: added, congrArg _ hcaptures, List.forall_mem_cons.mpr ⟨?_, hadded⟩⟩
    exact ⟨body, List.mem_cons_self, start.before, taken, hrest, htakes⟩

/-- Whether the label stands on every way through the pattern. -/
def keeps (label : Nat) : Pattern → Bool
  | seq first second => first.keeps label || second.keeps label
  | alt first second => first.keeps label && second.keeps label
  | capture other body => other == label || body.keeps label
  | _ => false

theorem exists_mem_captures_of_keeps {pattern : Pattern} {label : Nat} (keeps : pattern.keeps label = true)
    {start stop : Cursor} (h : stop ∈ pattern.ends start) : ∃ span, (label, span) ∈ stop.captures := by
  induction pattern generalizing start stop with
  | seq first second ihfirst ihsecond =>
    obtain ⟨middle, hmiddle, hstop⟩ := List.mem_flatMap.mp h
    rcases Bool.or_eq_true_iff.mp keeps with hfirst | hsecond
    · obtain ⟨span, hspan⟩ := ihfirst hfirst hmiddle
      exact ⟨span, (addsCaptures_of_mem_ends hstop).mem_captures hspan⟩
    · exact ihsecond hsecond hstop
  | alt first second ihfirst ihsecond =>
    obtain ⟨hkeeps, hkeeps'⟩ := Bool.and_eq_true_iff.mp keeps
    rcases List.mem_append.mp h with hfirst | hsecond
    · exact ihfirst hkeeps hfirst
    · exact ihsecond hkeeps' hsecond
  | capture other body ih =>
    obtain ⟨place, hplace, rfl⟩ := List.mem_map.mp h
    rcases Bool.or_eq_true_iff.mp keeps with hlabel | hbody
    · rw [← beq_iff_eq.mp hlabel]
      exact ⟨_, List.mem_cons_self⟩
    · obtain ⟨span, hspan⟩ := ih hbody hplace
      exact ⟨span, List.mem_cons_of_mem _ hspan⟩
  | _ => cases keeps

variable {pattern : Pattern} {before : Option Char} {text : List Char} {found : Match} {label : Nat}

/-- What a match has under a label was taken by a body under that label. -/
theorem exists_takes_of_group? (h : pattern.matchAt? before text = some found) {piece : List Char}
    (hpiece : found.group? label = some piece) :
    ∃ body before rest, (label, body) ∈ pattern.captureBodies ∧ body.Takes before piece rest := by
  obtain ⟨-, hstop⟩ := start_of_matchAt?_eq_some h
  obtain ⟨added, hcaptures, hadded⟩ := addsCaptures_of_mem_ends (List.mem_of_head? hstop)
  obtain ⟨span, hspan, rfl⟩ := Option.map_eq_some_iff.mp hpiece
  obtain ⟨front, back, hlist, -⟩ := List.lookup_eq_some_iff.mp hspan
  have hmem : (label, span) ∈ added := by
    rw [← List.append_nil added, ← hcaptures, hlist]
    exact List.mem_append_right _ List.mem_cons_self
  obtain ⟨body, hbody, before, taken, hstart, htakes⟩ := hadded _ hmem
  rw [Span.text_eq hstart]
  exact ⟨body, before, span.stop, hbody, htakes⟩

/-- A label on every way through a pattern is found in every match. -/
theorem exists_group?_of_keeps (keeps : pattern.keeps label = true) (h : pattern.matchAt? before text = some found) :
    ∃ piece, found.group? label = some piece := by
  obtain ⟨-, hstop⟩ := start_of_matchAt?_eq_some h
  obtain ⟨span, hspan⟩ := exists_mem_captures_of_keeps keeps (List.mem_of_head? hstop)
  have hlookup : (found.stop.captures.lookup label).isSome = true :=
    List.lookup_isSome_iff.mpr ⟨_, hspan, beq_self_eq_true label⟩
  obtain ⟨last, hlast⟩ := Option.isSome_iff_exists.mp hlookup
  exact ⟨last.text, by rw [Match.group?, hlast, Option.map_some]⟩

/-- What a pattern keeps in its middle stands between what it takes before and behind. -/
theorem exists_capture_around {first body second : Pattern} (plain : second.captureBodies = [])
    (h : (first ++ capture label body ++ second).matchAt? before text = some found) :
    ∃ front piece behind, text = front ++ (piece ++ (behind ++ found.stop.rest)) ∧
      found.stop.captures.lookup label =
        some ⟨piece ++ (behind ++ found.stop.rest), behind ++ found.stop.rest⟩ ∧
      first.Takes before front (piece ++ (behind ++ found.stop.rest)) ∧
      body.Takes (lastOr before front) piece (behind ++ found.stop.rest) ∧
      second.Takes (lastOr (lastOr before front) piece) behind found.stop.rest := by
  obtain ⟨-, hstop⟩ := start_of_matchAt?_eq_some h
  obtain ⟨stop, hbody, hend⟩ := List.mem_flatMap.mp (List.mem_of_head? hstop)
  obtain ⟨start, hstart, hbody⟩ := List.mem_flatMap.mp hbody
  obtain ⟨place, hplace, rfl⟩ := List.mem_map.mp hbody
  obtain ⟨front, hfront⟩ := exists_reached_of_mem_ends hstart
  obtain ⟨piece, hpiece⟩ := exists_reached_of_mem_ends hplace
  obtain ⟨behind, hbehind⟩ := exists_reached_of_mem_ends hend
  have hafter : place.rest = behind ++ found.stop.rest := hbehind.rest
  have hlookup : found.stop.captures.lookup label = some ⟨start.rest, place.rest⟩ := by
    obtain ⟨added, hcaptures, hadded⟩ := addsCaptures_of_mem_ends hend
    have hnone : added = [] := by
      rw [List.eq_nil_iff_forall_not_mem]
      intro entry hentry
      obtain ⟨body, hbody, -⟩ := hadded entry hentry
      rw [plain] at hbody
      cases hbody
    rw [hcaptures, hnone, List.nil_append, List.lookup_cons_self]
  rw [hpiece.rest, hafter] at hlookup
  refine ⟨front, piece, behind, ?_, hlookup, ?_, ?_, ?_⟩
  · rw [← hafter, ← hpiece.rest]
    exact hfront.rest
  · rw [← hafter, ← hpiece.rest]
    exact hfront.takes
  · rw [← hafter, ← hfront.before]
    exact hpiece.takes
  · rw [← hfront.before, ← hpiece.before]
    exact hbehind.takes

/-! ## Runs of characters -/

section Runs

variable {accepts : Char → Bool}

/-- A run that is not empty takes such characters, in any number but none. -/
theorem takes_some1_iff {taken rest : List Char} :
    (some1 accepts).Takes before taken rest ↔ taken ≠ [] ∧ ∀ c ∈ taken, accepts c = true := by
  constructor
  · rintro ⟨left, right, rfl, ⟨c, rfl, hc⟩, hright⟩
    exact ⟨List.cons_ne_nil c right, List.forall_mem_cons.mpr ⟨hc, hright⟩⟩
  · rintro ⟨hne, hall⟩
    obtain ⟨c, others, rfl⟩ := List.exists_cons_of_ne_nil hne
    obtain ⟨hc, hothers⟩ := List.forall_mem_cons.mp hall
    exact ⟨[c], others, rfl, ⟨c, rfl, hc⟩, hothers⟩

/-- A label under which the pattern always keeps a run is found, with characters of the run only. -/
theorem exists_group?_of_some1 (keeps : pattern.keeps label = true)
    (bodies : ∀ body, (label, body) ∈ pattern.captureBodies → body = some1 accepts)
    (h : pattern.matchAt? before text = some found) :
    ∃ piece, found.group? label = some piece ∧ piece ≠ [] ∧ ∀ c ∈ piece, accepts c = true := by
  obtain ⟨piece, hpiece⟩ := exists_group?_of_keeps keeps h
  obtain ⟨body, before, rest, hbody, htakes⟩ := exists_takes_of_group? h hpiece
  rw [bodies body hbody, takes_some1_iff] at htakes
  exact ⟨piece, hpiece, htakes⟩

/-- The preferred run is the longest. -/
theorem head?_runEnds (captures : List (Nat × Span)) (shorter : List Cursor) :
    (runEnds accepts captures before text shorter).head? =
      some ⟨lastOr before (text.takeWhile accepts), text.dropWhile accepts, captures⟩ := by
  induction text generalizing before shorter with
  | nil => rfl
  | cons c text ih =>
    rw [runEnds]
    by_cases hc : accepts c = true
    · rw [if_pos hc, ih, List.takeWhile_cons_of_pos hc, List.dropWhile_cons_of_pos hc, lastOr_cons]
    · rw [if_neg hc, List.takeWhile_cons_of_neg hc, List.dropWhile_cons_of_neg hc]
      rfl

theorem rest_of_head?_ends_some1 {start stop : Cursor} (h : ((some1 accepts).ends start).head? = some stop) :
    start.rest.takeWhile accepts ≠ [] ∧ stop.rest = start.rest.dropWhile accepts := by
  rw [some1, ends_append, List.head?_flatMap] at h
  obtain ⟨middle, hmiddle, hstop⟩ := List.exists_of_findSome?_eq_some h
  obtain ⟨taken, hrest, -, c, rfl, hc⟩ := exists_reached_of_mem_ends hmiddle
  cases (head?_runEnds _ _).symm.trans hstop
  rw [hrest, List.singleton_append, List.takeWhile_cons_of_pos hc, List.dropWhile_cons_of_pos hc]
  exact ⟨List.cons_ne_nil _ _, rfl⟩

/-- A pattern that ends with a run under a label keeps the whole run there, up to the first character that does not
belong to it. -/
theorem group?_of_matchAt?_capture_some1 {first : Pattern}
    (h : (first ++ capture label (some1 accepts)).matchAt? before text = some found) :
    ∃ taken rest, text = taken ++ rest ∧ first.Takes before taken rest ∧ rest.takeWhile accepts ≠ [] ∧
      found.group? label = some (rest.takeWhile accepts) := by
  obtain ⟨-, hstop⟩ := start_of_matchAt?_eq_some h
  rw [ends_append, List.head?_flatMap] at hstop
  obtain ⟨middle, hmiddle, hends⟩ := List.exists_of_findSome?_eq_some hstop
  obtain ⟨taken, htext, -, htakes⟩ := exists_reached_of_mem_ends hmiddle
  rw [ends, List.head?_map] at hends
  obtain ⟨place, hplace, hplaceStop⟩ := Option.map_eq_some_iff.mp hends
  obtain ⟨hne, hrest⟩ := rest_of_head?_ends_some1 hplace
  refine ⟨taken, middle.rest, htext, htakes, hne, ?_⟩
  have hspan : middle.rest = middle.rest.takeWhile accepts ++ place.rest := by
    rw [hrest, List.takeWhile_append_dropWhile]
  rw [Match.group?, ← hplaceStop, List.lookup_cons_self, Option.map_some, Span.text_eq hspan]

end Runs

/-! ## Preferred ends -/

/-- The pattern, started at the first place, ends at the second one unless what follows it makes it turn back. -/
def Prefers (pattern : Pattern) (start stop : Cursor) : Prop := (pattern.ends start).head? = some stop

namespace Prefers

variable {first second body : Pattern} {start middle stop : Cursor}

/-- Preferred ends can be put together. -/
theorem append (hfirst : first.Prefers start middle) (hsecond : second.Prefers middle stop) :
    (first ++ second).Prefers start stop := by
  obtain ⟨others, hends⟩ := List.head?_eq_some_iff.mp hfirst
  rw [Prefers, ends_append, hends, List.flatMap_cons]
  exact List.mem_head?_append_of_mem_head? hsecond

theorem maybe (hbody : body.Prefers start stop) : (maybe body).Prefers start stop :=
  List.mem_head?_append_of_mem_head? hbody

theorem capture (hbody : body.Prefers start stop) :
    (capture label body).Prefers start
      { stop with captures := (label, ⟨start.rest, stop.rest⟩) :: stop.captures } := by
  rw [Prefers, ends, List.head?_map, hbody, Option.map_some]

/-- The match ends where the pattern prefers to end. -/
theorem matchAt?_eq (h : pattern.Prefers ⟨before, text, []⟩ stop) :
    pattern.matchAt? before text = some ⟨text, stop⟩ := by
  rw [matchAt?, h, Option.map_some]

end Prefers

section Pieces

variable {accepts : Char → Bool} {taken rest : List Char} {captures : List (Nat × Span)}

theorem prefers_between {holds : Option Char → Option Char → Bool} (h : holds before rest.head? = true) :
    (between holds).Prefers ⟨before, rest, captures⟩ ⟨before, rest, captures⟩ := by
  rw [Prefers, ends, if_pos h, List.head?_cons]

theorem prefers_lit {word : String} (spelled : word.toList = taken) :
    (lit word).Prefers ⟨before, taken ++ rest, captures⟩ ⟨lastOr before taken, rest, captures⟩ := by
  rw [Prefers, lit, spelled]
  clear spelled
  induction taken generalizing before with
  | nil => rfl
  | cons c taken ih =>
    have hone : (one (· == c)).Prefers ⟨before, c :: (taken ++ rest), captures⟩
        ⟨some c, taken ++ rest, captures⟩ := by
      simp [Prefers, ends]
    rw [lastOr_cons]
    exact hone.append ih

theorem prefers_run (inside : ∀ c ∈ taken, accepts c = true) (stop : ∀ c ∈ rest.head?, accepts c = false) :
    (run accepts false).Prefers ⟨before, taken ++ rest, captures⟩ ⟨lastOr before taken, rest, captures⟩ := by
  obtain ⟨htaken, hrest⟩ := Text.takeWhile_append_of_stop inside stop
  change (runEnds accepts captures before (taken ++ rest) []).head? = _
  rw [head?_runEnds, htaken, hrest]

/-- A run is taken up to its end. -/
theorem prefers_some1 (nonempty : taken ≠ []) (inside : ∀ c ∈ taken, accepts c = true)
    (stop : ∀ c ∈ rest.head?, accepts c = false) :
    (some1 accepts).Prefers ⟨before, taken ++ rest, captures⟩ ⟨lastOr before taken, rest, captures⟩ := by
  obtain ⟨c, others, rfl⟩ := List.exists_cons_of_ne_nil nonempty
  obtain ⟨hc, hothers⟩ := List.forall_mem_cons.mp inside
  have hone : (one accepts).Prefers ⟨before, c :: (others ++ rest), captures⟩
      ⟨some c, others ++ rest, captures⟩ := by
    simp [Prefers, ends, hc]
  rw [lastOr_cons]
  exact hone.append (prefers_run hothers stop)

end Pieces

/-- A search finds the match at a place if there is none at the places before it. -/
theorem searchFrom?_append {passed later : List Char}
    (earlier : ∀ front back, passed = front ++ back → back ≠ [] →
      pattern.matchAt? (lastOr before front) (back ++ later) = none)
    (h : pattern.matchAt? (lastOr before passed) later = some found) :
    pattern.searchFrom? before (passed ++ later) = some found := by
  induction passed generalizing before with
  | nil =>
    cases later with
    | nil => exact h
    | cons c later =>
      have hmatch : pattern.matchAt? before (c :: later) = some found := h
      rw [List.nil_append, searchFrom?, hmatch]
  | cons c passed ih =>
    have hnone : pattern.matchAt? before (c :: (passed ++ later)) = none :=
      earlier [] (c :: passed) rfl (List.cons_ne_nil _ _)
    rw [lastOr_cons] at h
    rw [List.cons_append, searchFrom?, hnone]
    refine ih (fun front back hpassed hback ↦ ?_) h
    rw [← lastOr_cons before]
    exact earlier (c :: front) back (congrArg (c :: ·) hpassed) hback

end Pattern

end ContractAudit
