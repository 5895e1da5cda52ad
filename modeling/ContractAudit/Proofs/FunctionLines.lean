import ContractAudit.Metadata
import ContractAudit.Proofs.CodeLines
import ContractAudit.Proofs.FirstMatch

/-!
# The lines of functions

An outline says for every function at which line it stands. The line is counted: it is one more than the line feeds
before a place of the text, where the keyword or the name of the function starts. The source is split at the same line
feeds, so a text without line feeds that starts at a place stands on the line with the number of the place. Matches are
found from left to right and do not overlap; the places inside of them therefore follow each other, and so do their
lines, however many lines a match takes.
-/

namespace ContractAudit

/-! ## Line numbers -/

namespace Text

theorem lineNumberAt_mono (text : List Char) {first second : Nat} (h : first ≤ second) :
    lineNumberAt first text ≤ lineNumberAt second text :=
  Nat.add_le_add_right ((List.take_sublist_take_left h).count_le '\n') 1

/-- No place is at a line behind the last one. -/
theorem lineNumberAt_le (offset : Nat) (text : List Char) : lineNumberAt offset text ≤ (splitLines text).length := by
  rw [length_splitLines]
  exact Nat.add_le_add_right ((List.take_sublist offset text).count_le '\n') 1

/-- Characters without a line feed come first on the first line of what follows them. -/
theorem splitLines_append_eq {piece : List Char} (notFeed : '\n' ∉ piece) {rest : List Char} {line : Line}
    {lines : List Line} (hrest : splitLines rest = line :: lines) :
    splitLines (piece ++ rest) = (piece ++ line) :: lines := by
  induction piece with
  | nil => exact hrest
  | cons c piece ih =>
    rw [List.mem_cons, not_or] at notFeed
    exact splitLines_cons_eq (Ne.symm notFeed.1) (ih notFeed.2)

/-- A piece of a text without line feeds is a piece of the line before which as many line feeds stand as before the
piece. -/
theorem exists_line_of_piece (front : List Char) {piece : List Char} (notFeed : '\n' ∉ piece) (rest : List Char) :
    ∃ line, (splitLines (front ++ (piece ++ rest)))[front.count '\n']? = some line ∧ piece <:+: line := by
  induction front with
  | nil =>
    obtain ⟨line, lines, hrest⟩ := List.exists_cons_of_ne_nil (splitLines_ne_nil rest)
    refine ⟨piece ++ line, ?_, (List.prefix_append piece line).isInfix⟩
    rw [List.nil_append, splitLines_append_eq notFeed hrest]
    rfl
  | cons c front ih =>
    obtain ⟨line, hline, hpiece⟩ := ih
    by_cases hfeed : c = '\n'
    · refine ⟨line, ?_, hpiece⟩
      rw [hfeed, List.cons_append, splitLines_feed_cons, List.count_cons_self, List.getElem?_cons_succ, hline]
    · obtain ⟨first, lines, hrest⟩ := List.exists_cons_of_ne_nil (splitLines_ne_nil (front ++ (piece ++ rest)))
      rw [hrest] at hline
      rw [List.cons_append, splitLines_cons_eq hfeed hrest, List.count_cons_of_ne hfeed]
      cases hcount : front.count '\n' with
      | zero =>
        rw [hcount] at hline
        obtain rfl : first = line := Option.some.inj hline
        exact ⟨c :: first, rfl, List.infix_cons hpiece⟩
      | succ count =>
        rw [hcount] at hline
        exact ⟨line, hline, hpiece⟩

end Text

open Text

/-! ## Matches from left to right -/

namespace Pattern

variable {pattern : Pattern} {skip : Nat} {before : Option Char} {text : List Char} {found : Match}

/-- Every match is one that starts at a place of the text, and not among the characters that are skipped. -/
theorem exists_of_mem_matchesFrom (h : found ∈ pattern.matchesFrom skip before text) :
    ∃ passed, text = passed ++ found.start ∧ skip ≤ passed.length ∧
      pattern.matchAt? (lastOr before passed) found.start = some found := by
  have hhere {before : Option Char} {text : List Char} (h : pattern.matchAt? before text = some found) :
      ∃ passed, text = passed ++ found.start ∧ 0 ≤ passed.length ∧
        pattern.matchAt? (lastOr before passed) found.start = some found := by
    have hstart := (start_of_matchAt?_eq_some h).1
    exact ⟨[], hstart.symm, Nat.le_refl 0, by rwa [hstart]⟩
  fun_induction matchesFrom pattern skip before text with
  | case1 before => exact hhere (Option.mem_toList.mp h)
  | case2 skip before => cases h
  | case3 skip before c rest ih =>
    obtain ⟨passed, rfl, hskip, hmatch⟩ := ih h
    exact ⟨c :: passed, rfl, Nat.succ_le_succ hskip, by rwa [lastOr_cons]⟩
  | case4 before c rest first hfirst ih =>
    rcases List.mem_cons.mp h with rfl | hlater
    · exact hhere hfirst
    · obtain ⟨passed, rfl, -, hmatch⟩ := ih hlater
      exact ⟨c :: passed, rfl, Nat.zero_le _, by rwa [lastOr_cons]⟩
  | case5 before c rest hnone ih =>
    obtain ⟨passed, rfl, -, hmatch⟩ := ih h
    exact ⟨c :: passed, rfl, Nat.zero_le _, by rwa [lastOr_cons]⟩

/-- A match covers characters that the pattern takes. -/
theorem exists_taken_of_matchAt? (h : pattern.matchAt? before text = some found) :
    ∃ taken, found.start = taken ++ found.stop.rest ∧ pattern.Takes before taken found.stop.rest := by
  obtain ⟨hstart, hstop⟩ := start_of_matchAt?_eq_some h
  obtain ⟨taken, hrest, -, htakes⟩ := exists_reached_of_mem_ends (List.mem_of_head? hstop)
  exact ⟨taken, hstart.trans hrest, htakes⟩

/-- A later match starts in what an earlier one has left. -/
theorem pairwise_matchesFrom (pattern : Pattern) (skip : Nat) (before : Option Char) (text : List Char) :
    (pattern.matchesFrom skip before text).Pairwise fun earlier later ↦ later.start <:+ earlier.stop.rest := by
  fun_induction matchesFrom pattern skip before text with
  | case1 before =>
    cases pattern.matchAt? before [] with
    | none => exact List.Pairwise.nil
    | some found => exact List.pairwise_singleton _ found
  | case2 skip before => exact List.Pairwise.nil
  | case3 skip before c rest ih => exact ih
  | case4 before c rest found hfound ih =>
    refine List.pairwise_cons.mpr ⟨fun later hlater ↦ ?_, ih⟩
    obtain ⟨passed, hpassed, hskip, -⟩ := exists_of_mem_matchesFrom hlater
    obtain ⟨taken, htaken, -⟩ := exists_taken_of_matchAt? hfound
    have hstart := (start_of_matchAt?_eq_some hfound).1
    have hlength : found.length = taken.length := by
      rw [Match.length, htaken, List.length_append, Nat.add_sub_cancel]
    rw [hstart] at htaken
    have hfar : later.start.length ≤ found.stop.rest.length := by
      have hrest := congrArg List.length hpassed
      have htext := congrArg List.length htaken
      rw [List.length_append] at hrest htext
      rw [List.length_cons] at htext
      omega
    exact List.suffix_of_suffix_length_le ⟨c :: passed, congrArg (c :: ·) hpassed.symm⟩ ⟨taken, htaken.symm⟩ hfar
  | case5 before c rest hnone ih => exact ih

end Pattern

/-! ## Landmarks -/

namespace Match

/-- The place, given by the text behind it, lies inside of the match, and some characters of one line come there. -/
structure Shows (found : Match) (place shown : List Char) : Prop where
  starts : place <:+ found.start
  stops : found.stop.rest <:+ place
  comes : shown <+: place
  nonempty : shown ≠ []
  oneLine : '\n' ∉ shown

def groupStart (found : Match) (label : Nat) : List Char :=
  ((found.stop.captures.lookup label).map Span.start).getD found.start

theorem groupOffset_eq (found : Match) (label : Nat) (text : List Char) :
    found.groupOffset label text = text.length - (found.groupStart label).length := by
  rw [groupOffset, groupStart]
  cases found.stop.captures.lookup label with
  | none => rfl
  | some span => rfl

end Match

/-- The functions stand where they are said to be: at lines of the source, each of which shows the text by which the
function is known, and in the order of the lines. -/
structure InLines (source : List Char) (landmark : FunctionOutline → List Char) (functions : List FunctionOutline) :
    Prop where
  real : ∀ function ∈ functions, 1 ≤ function.line ∧ function.line ≤ (splitLines source).length ∧
    ∃ line, (splitLines source)[function.line - 1]? = some line ∧ landmark function ≠ [] ∧ landmark function <:+: line
  inOrder : (functions.map (·.line)).Pairwise (· ≤ ·)

/-- Functions that are read off the matches of a pattern stand where the matches show their landmarks. -/
theorem inLines_map_allMatches {pattern : Pattern} {source : List Char} {outline : Match → FunctionOutline}
    {landmark : FunctionOutline → List Char} (place : Match → List Char)
    (counted : ∀ found, (outline found).line = lineNumberAt (source.length - (place found).length) source)
    (shows : ∀ before text found, pattern.matchAt? before text = some found →
      found.Shows (place found) (landmark (outline found))) :
    InLines source landmark ((pattern.allMatches source).map outline) where
  real := by
    rw [List.forall_mem_map]
    intro found hfound
    obtain ⟨passed, hpassed, -, hmatch⟩ := Pattern.exists_of_mem_matchesFrom hfound
    obtain ⟨⟨inside, hinside⟩, -, ⟨rest, hrest⟩, hne, honeLine⟩ := shows _ _ found hmatch
    have hsource : source = (passed ++ inside) ++ (landmark (outline found) ++ rest) := by
      rw [hrest, List.append_assoc, hinside, hpassed]
    have hoffset : source.length - (place found).length = (passed ++ inside).length := by
      rw [hsource, hrest, List.length_append, Nat.add_sub_cancel]
    have hline : (outline found).line = (passed ++ inside).count '\n' + 1 := by
      rw [counted, hoffset, lineNumberAt, hsource, List.take_left]
    refine ⟨?_, ?_, ?_⟩
    · rw [hline]
      exact Nat.succ_pos _
    · rw [counted]
      exact lineNumberAt_le _ source
    · obtain ⟨line, hat, hpiece⟩ := exists_line_of_piece (passed ++ inside) honeLine rest
      refine ⟨line, ?_, hne, hpiece⟩
      rw [hline, Nat.add_sub_cancel, hsource, hat]
  inOrder := by
    rw [List.map_map, List.pairwise_map]
    refine (Pattern.pairwise_matchesFrom pattern 0 none source).imp_of_mem fun hfirst hsecond hlater ↦ ?_
    obtain ⟨_, -, -, hmatch⟩ := Pattern.exists_of_mem_matchesFrom hfirst
    obtain ⟨_, -, -, hmatch'⟩ := Pattern.exists_of_mem_matchesFrom hsecond
    have hplaces := ((shows _ _ _ hmatch').starts.trans (hlater.trans (shows _ _ _ hmatch).stops)).length_le
    rw [Function.comp_apply, Function.comp_apply, counted, counted]
    exact lineNumberAt_mono source (Nat.sub_le_sub_left hplaces _)

/-! ## The three languages -/

namespace Outline

/-- A pattern that keeps a word, with blanks behind it, shows the word where its capture starts. -/
theorem shows_group {first last : Pattern} (plain : last.captureBodies = []) {before : Option Char} {text : List Char}
    {found : Match} (h : (first ++ .capture 1 .word ++ .blanks ++ last).matchAt? before text = some found) :
    found.Shows (found.groupStart 1) (found.group 1) := by
  have hstart := (Pattern.start_of_matchAt?_eq_some h).1
  have hbehind : (.blanks ++ last : Pattern).captureBodies = [] := plain
  rw [Pattern.matchAt?_append_assoc] at h
  obtain ⟨front, name, behind, rfl, hlookup, -, hname, -⟩ := Pattern.exists_capture_around hbehind h
  obtain ⟨hne, hinside⟩ := Pattern.takes_some1_iff.mp hname
  have hgroup : found.group 1 = name := Match.group_eq (Match.group?_eq hlookup)
  have hplace : found.groupStart 1 = name ++ (behind ++ found.stop.rest) := by
    rw [Match.groupStart, hlookup, Option.map_some, Option.getD_some]
  rw [hgroup, hplace]
  refine ⟨⟨front, hstart.symm⟩, ?_, List.prefix_append name _, hne, fun hfeed ↦ ?_⟩
  · rw [← List.append_assoc]
    exact List.suffix_append _ _
  · have hnot : isWordCharacter '\n' = false := by decide +kernel
    rw [hinside '\n' hfeed] at hnot
    cases hnot

/-- Functions that are read by their names stand where the names do. -/
theorem inLines_namedFunctions {first last : Pattern} (plain : last.captureBodies = []) (source : List Char) :
    InLines source (·.name.toList) (namedFunctions (first ++ .capture 1 .word ++ .blanks ++ last) source) := by
  refine inLines_map_allMatches (·.groupStart 1) (fun found ↦ ?_) fun before text found h ↦ ?_
  · rw [Match.groupOffset_eq]
  · rw [String.toList_ofList]
    exact shows_group plain h

/-- A function in Solidity starts with its keyword. -/
theorem Solidity.shows_keyword {before : Option Char} {text : List Char} {found : Match}
    (h : function.matchAt? before text = some found) : found.Shows found.start "function".toList := by
  obtain ⟨taken, htaken, htakes⟩ := Pattern.exists_taken_of_matchAt? h
  have hkeyword : function.StartsWith "function".toList :=
    (Pattern.startsWith_lit "function").append.append.append.append.append.append.append.append
  refine ⟨List.suffix_refl _, ⟨taken, htaken.symm⟩, ?_, ?_, ?_⟩
  · rw [htaken]
    exact (hkeyword _ _ _ htakes).trans (List.prefix_append taken _)
  · decide
  · decide

theorem Solidity.inLines_functions (source : List Char) :
    InLines source (fun _ ↦ "function".toList) (Solidity.outline source).functions :=
  inLines_map_allMatches Match.start (fun _ ↦ rfl) fun _ _ _ ↦ shows_keyword

/-- The text by which a function is known on its line: its name in Vyper and Rust, and the keyword in Solidity and in
what is read like it. -/
def landmark (language : String) (function : FunctionOutline) : List Char :=
  if languageOr language = "vyper" ∨ languageOr language = "rust" then function.name.toList else "function".toList

/-- In every language the functions of a source stand at lines of the source that show them, in the order of the
lines. -/
theorem functions_in_lines (source : List Char) (language : String) :
    InLines source (landmark language) (ofSource source language).functions := by
  have hnamed (known : languageOr language = "vyper" ∨ languageOr language = "rust") :
      landmark language = (·.name.toList) := funext fun _ ↦ if_pos known
  rw [ofSource]
  split
  · next hvyper =>
    rw [hnamed (Or.inl hvyper)]
    exact inLines_namedFunctions rfl source
  · next hrust =>
    rw [hnamed (Or.inr hrust)]
    exact inLines_namedFunctions rfl source
  · next hvyper hrust =>
    have hkeyword : landmark language = fun _ ↦ "function".toList :=
      funext fun _ ↦ if_neg (not_or.mpr ⟨hvyper, hrust⟩)
    rw [hkeyword]
    exact Solidity.inLines_functions source

/-- A function whose keyword and name are on different lines. -/
example :
    ((ofSource "\nfunction\nf()\nfn\ng<".toList "").functions.map (·.line),
      (ofSource "\nfunction\nf()\nfn\ng<".toList "RUST").functions.map (·.line)) = ([2], [5]) := by decide +kernel

end Outline

end ContractAudit
