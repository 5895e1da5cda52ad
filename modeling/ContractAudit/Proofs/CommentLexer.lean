import ContractAudit.Proofs.LineComment

/-!
# Stripping comments as a lexer

Comments are stripped in two passes, one over the whole text for block comments and one over what is left for line
comments. A lexer does it in one: it reads the text from left to right as a sequence of comments and single
characters. The two differ only where a line comment holds the start of a block comment. Everywhere else the code is
what the lexer keeps, because the end of a block comment never meets a slash that was kept before its start.
-/

namespace ContractAudit.Comment

open Text

/-! ## The lexer -/

/-- The body of a block comment that was opened before this text, and what follows its end. -/
def splitBlock? : List Char → Option (List Char × List Char)
  | '*' :: '/' :: rest => some ([], rest)
  | c :: rest => (splitBlock? rest).map fun (body, after) ↦ (c :: body, after)
  | [] => none

theorem length_after_lt {text body after : List Char} (h : splitBlock? text = some (body, after)) :
    after.length < text.length := by
  fun_induction splitBlock? text generalizing body with
  | case1 rest =>
    cases h
    simp only [List.length_cons]
    omega
  | case2 c rest notClosing ih =>
    obtain ⟨⟨shorter, _⟩, hrest, heq⟩ := Option.map_eq_some_iff.mp h
    cases heq
    have := ih hrest
    simp only [List.length_cons]
    omega
  | case3 => cases h

/-- A piece of a source: one character of code, the text of a line comment after its slashes, or the body of a block
comment. -/
inductive Lexeme where
  | code (c : Char)
  | line (text : List Char)
  | block (body : List Char)

/-- The pieces of a source from left to right. A line comment ends before the next line feed; a block comment that is
never closed is code. -/
def lexemes : List Char → List Lexeme
  | '/' :: '/' :: rest => .line (rest.takeWhile (· ≠ '\n')) :: lexemes (rest.dropWhile (· ≠ '\n'))
  | '/' :: '*' :: rest =>
    match _ : splitBlock? rest with
    | some (body, after) => .block body :: lexemes after
    | none => .code '/' :: lexemes ('*' :: rest)
  | c :: rest => .code c :: lexemes rest
  | [] => []
termination_by text => text.length
decreasing_by
  · have := (List.dropWhile_suffix (l := rest) (· ≠ '\n')).length_le
    simp only [List.length_cons]
    omega
  · have := length_after_lt ‹_›
    simp only [List.length_cons]
    omega
  · simp
  · simp

/-- What a piece leaves in the code: a character itself, of a block comment its line feeds. -/
def Lexeme.kept : Lexeme → List Char
  | .code c => [c]
  | .line _ => []
  | .block body => body.filter (· = '\n')

/-- What the lexer keeps of a source. -/
def lexed (source : List Char) : List Char := (lexemes source).flatMap Lexeme.kept

def Lexeme.lineComment? : Lexeme → Option (List Char)
  | .line text => some ('/' :: '/' :: text)
  | _ => none

/-- The line comments that the lexer finds in a source. -/
def lineComments (source : List Char) : List (List Char) := (lexemes source).filterMap Lexeme.lineComment?

/-! ## What stripping does to each piece -/

/-- A block comment is closed exactly if its body can be split off. -/
theorem closes_eq_isSome (text : List Char) : closes text = (splitBlock? text).isSome := by
  fun_induction splitBlock? text with
  | case1 rest => rfl
  | case2 c rest notClosing ih => rw [closes_cons (not_pair_iff.mp notClosing), ih, Option.isSome_map]
  | case3 => rfl

/-- Blanking takes a closed block comment as a whole. -/
theorem blankBlocks_true_of_split {text body after : List Char} (h : splitBlock? text = some (body, after)) :
    blankBlocks true text = body.filter (· = '\n') ++ blankBlocks false after := by
  fun_induction splitBlock? text generalizing body with
  | case1 rest =>
    cases h
    rfl
  | case2 c rest notClosing ih =>
    obtain ⟨⟨shorter, _⟩, hrest, heq⟩ := Option.map_eq_some_iff.mp h
    cases heq
    rw [blankBlocks_true_cons (not_pair_iff.mp notClosing), ih hrest]
    by_cases hfeed : c = '\n'
    · simp [hfeed]
    · simp [hfeed]
  | case3 => cases h

theorem dropLineComments_feeds_append {feeds : List Char} (h : ∀ c ∈ feeds, c = '\n') (rest : List Char) :
    dropLineComments false (feeds ++ rest) = feeds ++ dropLineComments false rest := by
  induction feeds with
  | nil => rfl
  | cons c feeds ih =>
    have hfeed : c = '\n' := h c List.mem_cons_self
    have hpair : ¬ (c = '/' ∧ (feeds ++ rest).head? = some '/') := by simp [hfeed]
    rw [List.cons_append, dropLineComments_false_cons hpair, ih fun d hd ↦ h d (List.mem_cons_of_mem c hd),
      List.cons_append]

/-- A block comment leaves its line feeds. -/
theorem strip_block {rest body after : List Char} (h : splitBlock? rest = some (body, after)) :
    strip ('/' :: '*' :: rest) = body.filter (· = '\n') ++ strip after := by
  have hcloses : closes rest = true := by rw [closes_eq_isSome, h, Option.isSome_some]
  have hfeeds : ∀ c ∈ body.filter (· = '\n'), c = '\n' := by simp
  unfold strip
  rw [blankBlocks, if_pos hcloses, blankBlocks_true_of_split h, dropLineComments_feeds_append hfeeds]

/-- The start of a block comment that is never closed is code. -/
theorem strip_unclosed {rest : List Char} (h : splitBlock? rest = none) :
    strip ('/' :: '*' :: rest) = '/' :: strip ('*' :: rest) := by
  have hcloses : ¬ closes rest = true := by simp [closes_eq_isSome, h]
  have hstar : blankBlocks false ('*' :: rest) = '*' :: blankBlocks false rest := blankBlocks_false_cons (by simp)
  unfold strip
  rw [blankBlocks, if_neg hcloses, hstar, dropLineComments_false_cons (by simp)]

/-- Blanking block comments brings no slash to the front. -/
theorem head?_blankBlocks_ne {text : List Char} (h : text.head? ≠ some '/') :
    (blankBlocks false text).head? ≠ some '/' := by
  cases text with
  | nil => simp [blankBlocks]
  | cons c rest =>
    have hslash : c ≠ '/' := by simpa using h
    rw [blankBlocks_false_cons fun hpair ↦ hslash hpair.1]
    exact h

theorem strip_code {c : Char} {rest : List Char} (notLine : ¬ (c = '/' ∧ rest.head? = some '/'))
    (notBlock : ¬ (c = '/' ∧ rest.head? = some '*')) : strip (c :: rest) = c :: strip rest := by
  unfold strip
  rw [blankBlocks_false_cons notBlock, dropLineComments_false_cons]
  rintro ⟨hslash, hhead⟩
  exact head?_blankBlocks_ne (fun h ↦ notLine ⟨hslash, h⟩) hhead

/-- Where no block comment is opened, none is closed further on. -/
theorem spills_of_not_infix (after : List Char) {text : List Char} (h : ¬ ['/', '*'] <:+: text) :
    spills after false text = false := by
  induction text with
  | nil => rfl
  | cons c text ih =>
    rw [List.infix_cons_iff, not_or] at h
    rw [spills]
    · exact ih h.2
    · rintro rest - rfl rfl
      exact h.1 (List.prefix_append ['/', '*'] rest)
    · simp

/-- A line comment that opens no block comment, not even with its second slash, is dropped. -/
theorem strip_line {text after : List Char} (oneLine : '\n' ∉ text) (lineEnd : StartsWithFeed after)
    (h : ¬ ['/', '*'] <:+: '/' :: text) : strip ('/' :: '/' :: text ++ after) = strip after := by
  rw [List.infix_cons_iff, not_or] at h
  have harmless : Harmless text after := by
    refine ⟨fun hstar ↦ ?_, spills_of_not_infix after h.2⟩
    obtain ⟨rest, rfl⟩ := List.head?_eq_some_iff.mp hstar
    exact absurd (List.prefix_append ['/', '*'] rest) h.1
  exact strip_insert (rfl : endsInside false [] = false) (by simp) oneLine lineEnd harmless

/-! ## The whole source -/

/-- Stripping comments gives what the lexer keeps, for every source in which no line comment, read from its second slash
on, holds the start of a block comment. -/
theorem strip_eq_lexed (source : List Char) (h : ∀ comment ∈ lineComments source, ¬ ['/', '*'] <:+: comment.tail) :
    strip source = lexed source := by
  unfold lexed
  unfold lineComments at h
  fun_induction lexemes source with
  | case1 rest ih =>
    have hlater := ih fun comment hmem ↦ h comment (List.mem_cons_of_mem _ hmem)
    have oneLine : '\n' ∉ rest.takeWhile (· ≠ '\n') := fun hmem ↦ by simpa using List.mem_takeWhile_imp hmem
    have lineEnd : StartsWithFeed (rest.dropWhile (· ≠ '\n')) := by
      intro c hc
      have hfirst := List.head?_dropWhile_not (· ≠ '\n') rest
      rw [hc] at hfirst
      simpa using hfirst
    calc
      strip ('/' :: '/' :: rest) =
          strip ('/' :: '/' :: rest.takeWhile (· ≠ '\n') ++ rest.dropWhile (· ≠ '\n')) := by
        rw [List.cons_append, List.cons_append, List.takeWhile_append_dropWhile]
      _ = strip (rest.dropWhile (· ≠ '\n')) := strip_line oneLine lineEnd (h _ List.mem_cons_self)
      _ = (lexemes (rest.dropWhile (· ≠ '\n'))).flatMap Lexeme.kept := hlater
  | case2 rest body after hsplit ih => rw [strip_block hsplit, ih h, List.flatMap_cons, Lexeme.kept]
  | case3 rest hsplit ih => rw [strip_unclosed hsplit, ih h, List.flatMap_cons, Lexeme.kept, List.singleton_append]
  | case4 c rest notLine notBlock ih =>
    rw [strip_code (not_pair_iff.mp notLine) (not_pair_iff.mp notBlock), ih h, List.flatMap_cons, Lexeme.kept,
      List.singleton_append]
  | case5 => rfl

/-- Comments that a scan could misread: a block comment that does not end with the star of its own start and has two
slashes inside, a line comment with the end of a block comment in it, and a start of a block comment without an end. -/
def tangledComments : String := "a /*/ b\n// c */ d // e */ f\n/* g //"

theorem strip_eq_lexed_tangledComments :
    (∀ comment ∈ lineComments tangledComments.toList, ¬ ['/', '*'] <:+: comment.tail) ∧
      strip tangledComments.toList = lexed tangledComments.toList ∧
      lexed tangledComments.toList = "a \n d \n/* g ".toList := by
  have hplain : ∀ comment ∈ lineComments tangledComments.toList, ¬ ['/', '*'] <:+: comment.tail := by decide +kernel
  exact ⟨hplain, strip_eq_lexed _ hplain, by decide +kernel⟩

/-- The start of a block comment inside a line comment is one for stripping and none for the lexer. -/
example :
    strip "a // /* b\nc */".toList = "a \n".toList ∧ lexed "a // /* b\nc */".toList = "a \nc */".toList := by
  decide +kernel

end ContractAudit.Comment
