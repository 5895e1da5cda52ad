import ContractAudit.Proofs.CodeOnly
import ContractAudit.Proofs.CommentScan

/-!
# Line comments at the end of a line

A line comment is put at the end of a line that is outside of block comments. It leaves the code as it was, unless it
opens a block comment that a later line closes: block comments are looked for inside line comments too, and such a
comment takes the code between the two places with it. The last statement shows how a call is hidden that way.
-/

namespace ContractAudit

/-! ## Texts with a longer line -/

namespace Text

theorem joinLines_cons (line : Line) (lines : List Line) :
    joinLines (line :: lines) = line ++ lines.flatMap ('\n' :: ·) := by
  induction lines generalizing line with
  | nil => simp [joinLines]
  | cons next lines ih => rw [joinLines, ih next, List.flatMap_cons, List.cons_append]

def upToLine (text : List Char) (index : Nat) : List Char := joinLines ((splitLines text).take (index + 1))

def afterLine (text : List Char) (index : Nat) : List Char := ((splitLines text).drop (index + 1)).flatMap ('\n' :: ·)

/-- The text with more characters at the end of the line at an index. -/
def extendLine (text : List Char) (index : Nat) (more : List Char) : List Char :=
  joinLines ((splitLines text).modify index (· ++ more))

/-- Lines behind others come with a line feed each. -/
theorem joinLines_append {lines : List Line} (h : lines ≠ []) (later : List Line) :
    joinLines (lines ++ later) = joinLines lines ++ later.flatMap ('\n' :: ·) := by
  cases lines with
  | nil => exact absurd rfl h
  | cons line lines =>
    rw [List.cons_append, joinLines_cons, joinLines_cons, List.flatMap_append, List.append_assoc]

theorem joinLines_concat_append (lines : List Line) (line more : Line) :
    joinLines (lines ++ [line ++ more]) = joinLines (lines ++ [line]) ++ more := by
  cases lines with
  | nil => simp [joinLines]
  | cons first lines => simp [joinLines_cons]

/-- A text is its lines up to an index and what follows them. -/
theorem upToLine_append_afterLine (text : List Char) (index : Nat) :
    upToLine text index ++ afterLine text index = text := by
  have htake : (splitLines text).take (index + 1) ≠ [] := by
    simp [List.take_eq_nil_iff, splitLines_ne_nil]
  unfold upToLine afterLine
  rw [← joinLines_append htake, List.take_append_drop, joinLines_splitLines]

theorem take_succ_eq {text : List Char} {index : Nat} {line : Line} (h : (splitLines text)[index]? = some line) :
    (splitLines text).take (index + 1) = (splitLines text).take index ++ [line] := by
  rw [List.take_add_one, h, Option.toList_some]

/-- More characters at the end of a line stand between the line and what follows it. -/
theorem extendLine_eq {text : List Char} {index : Nat} {line : Line} (h : (splitLines text)[index]? = some line)
    (more : List Char) : extendLine text index more = upToLine text index ++ more ++ afterLine text index := by
  obtain ⟨hindex, hline⟩ := List.getElem?_eq_some_iff.mp h
  unfold extendLine upToLine afterLine
  rw [List.modify_eq_take_cons_drop hindex, hline, take_succ_eq h, ← joinLines_concat_append,
    ← joinLines_append (by simp), List.append_assoc, List.singleton_append]

/-- The last character of the text up to a line is the last one of the line, if that is not empty. -/
theorem getLast?_upToLine {text : List Char} {index : Nat} {line : Line} (h : (splitLines text)[index]? = some line)
    {c : Char} (hlast : (upToLine text index).getLast? = some c) : c = '\n' ∨ line.getLast? = some c := by
  unfold upToLine at hlast
  rw [take_succ_eq h] at hlast
  cases hbefore : (splitLines text).take index with
  | nil =>
    rw [hbefore] at hlast
    exact Or.inr hlast
  | cons first lines =>
    rw [hbefore, List.cons_append, joinLines_cons, List.flatMap_append] at hlast
    cases line with
    | nil =>
      simp at hlast
      exact Or.inl hlast.symm
    | cons d line =>
      right
      simpa [List.getLast?_append, List.getLast?_cons] using hlast

/-- The text does not go on with the line that came before it. -/
def StartsWithFeed (text : List Char) : Prop := ∀ c ∈ text.head?, c = '\n'

theorem StartsWithFeed.head?_ne {text : List Char} (h : StartsWithFeed text) {c : Char} (notFeed : c ≠ '\n') :
    text.head? ≠ some c :=
  fun hhead ↦ notFeed (h c hhead)

theorem startsWithFeed_afterLine (text : List Char) (index : Nat) : StartsWithFeed (afterLine text index) := by
  unfold afterLine
  cases (splitLines text).drop (index + 1) with
  | nil => simp [StartsWithFeed]
  | cons line lines => simp [StartsWithFeed]

end Text

namespace Comment

open Text

/-! ## Line comments between two parts of a text -/

theorem dropLineComments_true_append {comment : List Char} (oneLine : '\n' ∉ comment) (rest : List Char) :
    dropLineComments true (comment ++ rest) = dropLineComments true rest := by
  induction comment with
  | nil => rfl
  | cons c comment ih =>
    rw [List.mem_cons, not_or] at oneLine
    rw [List.cons_append, dropLineComments_true_cons (Ne.symm oneLine.1), ih oneLine.2]

/-- At the end of a line it makes no difference whether the line ends in a comment. -/
theorem dropLineComments_true_eq_false {rest : List Char} (lineEnd : StartsWithFeed rest) :
    dropLineComments true rest = dropLineComments false rest := by
  cases rest with
  | nil => rfl
  | cons c rest =>
    have hfeed : c = '\n' := lineEnd c rfl
    rw [hfeed, dropLineComments, dropLineComments_false_cons (by simp)]

/-- After a text that does not end with a slash, and so splits no pair, the scan for line comments depends on the rest
only through the scan of the rest. -/
theorem dropLineComments_append_congr (inside : Bool) {text first second : List Char}
    (last : text.getLast? ≠ some '/')
    (h : ∀ inside, dropLineComments inside first = dropLineComments inside second) :
    dropLineComments inside (text ++ first) = dropLineComments inside (text ++ second) := by
  have htail {c : Char} {tail : List Char} (hlast : (c :: tail).getLast? ≠ some '/') : tail.getLast? ≠ some '/' := by
    intro hslash
    rw [List.getLast?_cons, hslash] at hlast
    exact hlast rfl
  fun_induction dropLineComments inside text with
  | case1 tail ih =>
    simp only [List.cons_append, dropLineComments]
    exact ih (htail (htail last))
  | case2 tail ih =>
    simp only [List.cons_append, dropLineComments]
    rw [ih (htail last)]
  | case3 c tail notOpening ih =>
    rw [not_pair_iff] at notOpening
    have hpair (rest : List Char) : ¬ (c = '/' ∧ (tail ++ rest).head? = some '/') := by
      cases tail with
      | nil =>
        rintro ⟨rfl, -⟩
        exact last rfl
      | cons d tail => exact notOpening
    rw [List.cons_append, List.cons_append, dropLineComments_false_cons (hpair first),
      dropLineComments_false_cons (hpair second), ih (htail last)]
  | case4 c tail notFeed ih =>
    rw [List.cons_append, List.cons_append, dropLineComments_true_cons notFeed, dropLineComments_true_cons notFeed,
      ih (htail last)]
  | case5 inside => exact h inside

/-- A line comment at the end of a line is dropped, whether or not it stands inside another one. -/
theorem dropLineComments_lineComment (inside : Bool) {comment rest : List Char} (oneLine : '\n' ∉ comment)
    (lineEnd : StartsWithFeed rest) :
    dropLineComments inside ('/' :: '/' :: comment ++ rest) = dropLineComments inside rest := by
  cases inside with
  | false =>
    calc
      dropLineComments false ('/' :: '/' :: comment ++ rest) = dropLineComments true (comment ++ rest) := by
        simp only [List.cons_append, dropLineComments]
      _ = dropLineComments true rest := dropLineComments_true_append oneLine rest
      _ = dropLineComments false rest := dropLineComments_true_eq_false lineEnd
  | true =>
    apply dropLineComments_true_append
    simpa using oneLine

/-! ## Harmless line comments -/

/-- Whether a block comment that is opened in the text is closed after the text and not in it. The flag says whether the
text starts inside one. -/
def spills (after : List Char) : (inside : Bool) → List Char → Bool
  | false, '/' :: '*' :: rest => if closes rest then spills after true rest else closes (rest ++ after)
  | true, '*' :: '/' :: rest => spills after false rest
  | inside, _ :: rest => spills after inside rest
  | _, [] => false

/-- A line comment, without its slashes, that takes no code with it: its second slash opens no block comment, and no
block comment that is opened further on is closed after it. -/
def Harmless (comment after : List Char) : Prop :=
  (comment.head? = some '*' → closes (comment.tail ++ after) = false) ∧ spills after false comment = false

instance (comment after : List Char) : Decidable (Harmless comment after) := inferInstanceAs (Decidable (_ ∧ _))

/-- Where no block comment spills over into the second part, that part is blanked as if it were alone. -/
theorem blankBlocks_append_of_not_spills {inside : Bool} {text after : List Char}
    (hspills : spills after inside text = false) (hcloses : inside = true → closes text = true)
    (boundary : after.head? ≠ some '*') :
    ∃ left, left.count '\n' = text.count '\n' ∧
      blankBlocks inside (text ++ after) = left ++ blankBlocks false after := by
  fun_induction spills after inside text with
  | case1 rest hrest ih =>
    obtain ⟨left, hcount, hleft⟩ := ih hspills fun _ ↦ hrest
    refine ⟨left, by simpa using hcount, ?_⟩
    rw [List.cons_append, List.cons_append, blankBlocks, if_pos (closes_append_left hrest after), hleft]
  | case2 rest hrest =>
    have hafter : closes after = false := by
      rw [← Bool.not_eq_true] at hspills ⊢
      exact fun h ↦ hspills (closes_append_right h rest)
    refine ⟨'/' :: '*' :: rest, rfl, ?_⟩
    rw [List.cons_append, List.cons_append, blankBlocks, if_neg (Bool.eq_false_iff.mp hspills),
      blankBlocks_false_cons (by simp), blankBlocks_eq_self hspills, blankBlocks_eq_self hafter, List.cons_append,
      List.cons_append]
  | case3 rest ih =>
    obtain ⟨left, hcount, hleft⟩ := ih hspills (by simp)
    refine ⟨left, by simpa using hcount, ?_⟩
    rw [List.cons_append, List.cons_append, blankBlocks, hleft]
  | case4 inside c rest notOpening notClosing ih =>
    cases inside with
    | false =>
      have hpair : ¬ (c = '/' ∧ rest.head? = some '*') := not_pair_iff.mp fun tail ↦ notOpening tail rfl
      obtain ⟨left, hcount, hleft⟩ := ih hspills (by simp)
      refine ⟨c :: left, by rw [List.count_cons, List.count_cons, hcount], ?_⟩
      rw [List.cons_append, blankBlocks_false_cons, hleft, List.cons_append]
      cases rest with
      | nil => exact fun h ↦ boundary h.2
      | cons d rest => exact hpair
    | true =>
      have hpair : ¬ (c = '*' ∧ rest.head? = some '/') := not_pair_iff.mp fun tail ↦ notClosing tail rfl
      have hrest : closes rest = true := by rw [← closes_cons hpair, hcloses rfl]
      obtain ⟨left, hcount, hleft⟩ := ih hspills fun _ ↦ hrest
      have hpair' : ¬ (c = '*' ∧ (rest ++ after).head? = some '/') := by
        cases rest with
        | nil => cases hrest
        | cons d rest => exact hpair
      rw [List.cons_append, blankBlocks_true_cons hpair']
      by_cases hfeed : c = '\n'
      · refine ⟨'\n' :: left, by rw [hfeed, List.count_cons, List.count_cons, hcount], ?_⟩
        rw [if_pos hfeed, hleft, List.cons_append]
      · refine ⟨left, by rw [List.count_cons_of_ne hfeed, hcount], ?_⟩
        rw [if_neg hfeed, hleft]
  | case5 inside =>
    have houtside : inside = false := by
      rw [← Bool.not_eq_true]
      intro hinside
      cases hcloses hinside
    exact ⟨[], rfl, by rw [houtside]; rfl⟩

/-- Blanking block comments leaves of a harmless line comment its slashes and something without line feeds. -/
theorem blankBlocks_lineComment {comment after : List Char} (harmless : Harmless comment after)
    (oneLine : '\n' ∉ comment) (lineEnd : StartsWithFeed after) :
    ∃ left, '\n' ∉ left ∧
      blankBlocks false ('/' :: '/' :: comment ++ after) = '/' :: '/' :: left ++ blankBlocks false after := by
  have hboundary : after.head? ≠ some '*' := lineEnd.head?_ne (by decide)
  obtain ⟨left, hcount, hleft⟩ := blankBlocks_append_of_not_spills harmless.2 (by simp) hboundary
  have hsecond : blankBlocks false ('/' :: (comment ++ after)) = '/' :: blankBlocks false (comment ++ after) := by
    by_cases hstar : comment.head? = some '*'
    · obtain ⟨tail, rfl⟩ := List.head?_eq_some_iff.mp hstar
      have hopen : closes (tail ++ after) = false := harmless.1 hstar
      rw [List.cons_append, blankBlocks, if_neg (Bool.eq_false_iff.mp hopen)]
    · apply blankBlocks_false_cons
      rintro ⟨-, hhead⟩
      cases comment with
      | nil => exact hboundary hhead
      | cons c comment => exact hstar hhead
  refine ⟨left, ?_, ?_⟩
  · rw [← List.count_eq_zero, hcount, List.count_eq_zero]
    exact oneLine
  · rw [List.cons_append, List.cons_append, blankBlocks_false_cons (by simp), hsecond, hleft, List.cons_append,
      List.cons_append]

/-- A harmless line comment between a line that ends outside of block comments and the rest of the text leaves the
code as it was. -/
theorem strip_insert {before comment after : List Char} (outside : endsInside false before = false)
    (last : before.getLast? ≠ some '/') (oneLine : '\n' ∉ comment)
    (lineEnd : StartsWithFeed after) (harmless : Harmless comment after) :
    strip (before ++ ('/' :: '/' :: comment) ++ after) = strip (before ++ after) := by
  obtain ⟨left, hleft, hblanked⟩ := blankBlocks_lineComment harmless oneLine lineEnd
  have hlast : (blankBlocks false before).getLast? ≠ some '/' := by
    cases hbefore : before.getLast? with
    | none =>
      rw [List.getLast?_eq_none_iff.mp hbefore]
      simp [blankBlocks]
    | some c =>
      have hslash : c ≠ '/' := fun heq ↦ last (heq ▸ hbefore)
      rw [getLast?_blankBlocks outside hbefore hslash]
      simpa using hslash
  have hlineEnd : StartsWithFeed (blankBlocks false after) := by
    intro c hc
    cases after with
    | nil => cases hc
    | cons d after =>
      have hfeed : d = '\n' := lineEnd d rfl
      rw [hfeed, blankBlocks_false_cons (by simp)] at hc
      exact (Option.some.inj hc).symm
  unfold strip
  rw [List.append_assoc, blankBlocks_append outside (by simp), hblanked,
    blankBlocks_append outside (lineEnd.head?_ne (by decide))]
  apply dropLineComments_append_congr false hlast
  intro inside
  exact dropLineComments_lineComment inside hleft hlineEnd

/-- A line comment at the end of a line leaves the code as it was, and with it the vulnerabilities that any built-in
analyzer finds, up to the raw lines shown in snippets. The line has to end outside of block comments, also of those that
are never closed, and not with a slash; and the comment must not open a block comment that is closed after it, nor one
with its own second slash that is closed at all. -/
theorem lineComment_hides_nothing (source : String) (index : Nat) (line comment : List Char)
    (isLine : (splitLines source.toList)[index]? = some line)
    (outside : endsInside false (upToLine source.toList index) = false) (last : line.getLast? ≠ some '/')
    (oneLine : '\n' ∉ comment) (harmless : Harmless comment (afterLine source.toList index)) :
    strip (extendLine source.toList index ('/' :: '/' :: comment)) = strip source.toList ∧
      ∀ (key : BuiltIn) (settings : SettingsTable),
        Alike (fun outcome : Outcome ↦ outcome.vulnerabilities.map Finding.withoutSnippet)
          ((key.withWindows settings).check
            (.str (String.ofList (extendLine source.toList index ('/' :: '/' :: comment)))))
          ((key.withWindows settings).check (.str source)) := by
  have hlast : (upToLine source.toList index).getLast? ≠ some '/' := by
    intro hslash
    rcases getLast?_upToLine isLine hslash with hfeed | hline
    · cases hfeed
    · exact last hline
  have hstrip : strip (extendLine source.toList index ('/' :: '/' :: comment)) = strip source.toList := by
    calc
      strip (extendLine source.toList index ('/' :: '/' :: comment)) =
          strip (upToLine source.toList index ++ ('/' :: '/' :: comment) ++ afterLine source.toList index) := by
        rw [extendLine_eq isLine]
      _ = strip (upToLine source.toList index ++ afterLine source.toList index) :=
        strip_insert outside hlast oneLine (startsWithFeed_afterLine _ _) harmless
      _ = strip source.toList := by rw [upToLine_append_afterLine]
  refine ⟨hstrip, fun key settings ↦ BuiltIn.alike_vulnerabilities ?_ key settings⟩
  rw [String.toList_ofList]
  exact hstrip

def laterComment : String := "x = 1;\na.call(b);\n/* done */"

/-- A block comment that is closed inside the line comment does no harm. -/
theorem lineComment_hides_nothing_laterComment :
    endsInside false (upToLine laterComment.toList 1) = false ∧
      Harmless " see /* above */ there".toList (afterLine laterComment.toList 1) ∧
      strip (extendLine laterComment.toList 1 ('/' :: '/' :: " see /* above */ there".toList)) =
        strip laterComment.toList ∧
      ∀ (key : BuiltIn) (settings : SettingsTable),
        Alike (fun outcome : Outcome ↦ outcome.vulnerabilities.map Finding.withoutSnippet)
          ((key.withWindows settings).check
            (.str (String.ofList (extendLine laterComment.toList 1 ('/' :: '/' :: " see /* above */ there".toList)))))
          ((key.withWindows settings).check (.str laterComment)) := by
  have houtside : endsInside false (upToLine laterComment.toList 1) = false := by decide
  have hharmless : Harmless " see /* above */ there".toList (afterLine laterComment.toList 1) := by decide
  exact ⟨houtside, hharmless, lineComment_hides_nothing laterComment 1 "a.call(b);".toList _ (by decide) houtside
    (by decide) (by decide) hharmless⟩

/-- A line comment can hide code: the block comment that it opens ends where a comment on a later line does, and the
unchecked call between them is not found any more. -/
theorem lineComment_hides_call :
    (splitLines laterComment.toList)[0]? = some "x = 1;".toList ∧
      endsInside false (upToLine laterComment.toList 0) = false ∧ "x = 1;".toList.getLast? ≠ some '/' ∧
      '\n' ∉ " see /* below".toList ∧
      strip (extendLine laterComment.toList 0 ('/' :: '/' :: " see /* below".toList)) ≠ strip laterComment.toList ∧
      (BuiltIn.uncheckedCall.default.check (.str laterComment)).map (·.vulnerabilities.length) = .ok 1 ∧
      (BuiltIn.uncheckedCall.default.check
        (.str (String.ofList (extendLine laterComment.toList 0 ('/' :: '/' :: " see /* below".toList))))).map
          (·.vulnerabilities.length) = .ok 0 := by
  refine ⟨by decide, by decide, by decide, by decide, by decide, rfl, rfl⟩

end Comment

end ContractAudit
