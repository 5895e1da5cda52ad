import ContractAudit.Number.Notation
import ContractAudit.Text.Utf8
import ContractAudit.Text.WordCharacter

/-!
# Literals in tags

A tag may carry arguments for an action. They are written as literals: numbers, texts, bytes, truth values, and tuples,
sets and mappings of them. This module decides whether a text is such a literal; what it stands for does not matter.
-/

namespace ContractAudit.Console.Literal

/-- What a literal is, as far as it matters for what may be built from it. -/
inductive Kind where
  | real
  | imaginary
  | signedReal
  | signedImaginary
  | text
  | bytes
  /-- Anything else that can be a member of a set. -/
  | plain
  /-- A set, a mapping, or a tuple with one of them in it. -/
  | changeable
deriving DecidableEq, Repr

/-- A reading of the start of a text: what it is, and the text after it. -/
abbrev Reading := Option (Kind × List Char)

def skipBlanks (nested : Bool) : (fuel : Nat) → List Char → List Char
  | 0, text => text
  | _ + 1, [] => []
  | fuel + 1, c :: rest =>
    if c = ' ' || c = '\t' || c = '\x0c' then skipBlanks nested fuel rest
    else if c = '\\' && rest.head? = some '\n' then skipBlanks nested fuel (rest.drop 1)
    else if nested && (c = '\n' || c = '\r') then skipBlanks nested fuel rest
    else if nested && c = '#' then skipBlanks nested fuel (rest.dropWhile (· != '\n'))
    else c :: rest

/-! ## Numbers -/

/-- Digits with single underscores between them, and the text after them. -/
def digitRow (isDigit : Char → Bool) : List Char → List Char × List Char
  | '_' :: c :: rest =>
    if isDigit c then
      let (digits, after) := digitRow isDigit rest
      (c :: digits, after)
    else ([], '_' :: c :: rest)
  | c :: rest =>
    if isDigit c then
      let (digits, after) := digitRow isDigit rest
      (c :: digits, after)
    else ([], c :: rest)
  | [] => ([], [])

def digits (isDigit : Char → Bool) (text : List Char) : List Char × List Char :=
  if text.head? = some '_' then ([], text) else digitRow isDigit text

def isHexDigit (c : Char) : Bool := c.isDigit || ('a' ≤ c && c ≤ 'f') || ('A' ≤ c && c ≤ 'F')

/-- A number may not run into a word. -/
def endOfNumber (kind : Kind) (rest : List Char) : Reading :=
  if rest.head?.any Text.isWordCharacter then none else some (kind, rest)

/-- Digits after the mark of their base, with an underscore allowed in front. -/
def marked (isDigit : Char → Bool) (text : List Char) : Reading :=
  let (row, rest) := digitRow isDigit text
  if row.isEmpty then none else endOfNumber .real rest

/-- The text after an exponent, if one stands here. -/
def afterExponent? : List Char → Option (List Char)
  | mark :: rest =>
    if mark = 'e' || mark = 'E' then
      let unsigned := if rest.head? = some '-' || rest.head? = some '+' then rest.drop 1 else rest
      let (row, after) := digits Char.isDigit unsigned
      if row.isEmpty then none else some after
    else none
  | [] => none

def decimal (text : List Char) : Reading :=
  let (whole, afterWhole) := digits Char.isDigit text
  let hasPoint := afterWhole.head? = some '.'
  let (fraction, afterFraction) := if hasPoint then digits Char.isDigit (afterWhole.drop 1) else ([], afterWhole)
  if whole.isEmpty && fraction.isEmpty then none
  else
    let exponent := afterExponent? afterFraction
    let rest := exponent.getD afterFraction
    if rest.head? = some 'j' || rest.head? = some 'J' then endOfNumber .imaginary (rest.drop 1)
    else if hasPoint || exponent.isSome then endOfNumber .real rest
    else if whole.head? = some '0' && whole.any (· != '0') then none
    else if Number.digitLimit < whole.length then none
    else endOfNumber .real rest

def number (text : List Char) : Reading :=
  match text with
  | '0' :: mark :: rest =>
    if mark = 'x' || mark = 'X' then marked isHexDigit rest
    else if mark = 'o' || mark = 'O' then marked (fun c ↦ '0' ≤ c && c ≤ '7') rest
    else if mark = 'b' || mark = 'B' then marked (fun c ↦ c = '0' || c = '1') rest
    else decimal text
  | text => decimal text

/-! ## Texts -/

/-- How a text is written. -/
structure Spelling where
  raw : Bool
  bytes : Bool
  /-- The quotes that end it. -/
  quotes : List Char

/-- The letters in front of a text and the text from its first quote on. -/
def letters? (text : List Char) : Option (Bool × Bool × List Char) :=
  let front := String.ofList ((text.takeWhile fun c ↦ c != '\'' && c != '"').map Char.toLower)
  let rest := text.drop front.length
  if rest.isEmpty then none
  else match front with
    | "" | "u" => some (false, false, rest)
    | "r" => some (true, false, rest)
    | "b" => some (false, true, rest)
    | "br" | "rb" => some (true, true, rest)
    | _ => none

/-- How the text that starts here is written, and what follows its opening quotes. -/
def spelling? (text : List Char) : Option (Spelling × List Char) := do
  let (raw, bytes, rest) ← letters? text
  match rest with
  | quote :: more =>
    if more.take 2 == [quote, quote] then some (⟨raw, bytes, [quote, quote, quote]⟩, more.drop 2)
    else some (⟨raw, bytes, [quote]⟩, more)
  | [] => none

def code? (count : Nat) (text : List Char) : Option Nat :=
  let row := text.take count
  if row.length = count && row.all isHexDigit then
    some (row.foldl (fun n c ↦ 16 * n + (if c.isDigit then c.toNat - 48 else c.toLower.toNat - 87)) 0)
  else none

/-- Whether the escape whose letter starts a text is well formed. -/
def escapes (bytes : Bool) : List Char → Bool
  | 'x' :: rest => (code? 2 rest).isSome
  | 'u' :: rest => bytes || (code? 4 rest).isSome
  | 'U' :: rest => bytes || (code? 8 rest).any (· ≤ 0x10FFFF)
  | 'N' :: rest => bytes || (rest.head? = some '\x7b' && (rest.dropWhile (· != '\x7d')).length != 0)
  | _ => true

/-- The text after the quotes that end a text; nothing when it is not well formed. The fuel bounds its length. -/
def afterText? (spelling : Spelling) : (fuel : Nat) → List Char → Option (List Char)
  | 0, _ => none
  | _ + 1, [] => none
  | fuel + 1, c :: rest =>
    if spelling.quotes.isPrefixOf (c :: rest) then some ((c :: rest).drop spelling.quotes.length)
    else if spelling.bytes && 127 < c.toNat then none
    else if c = '\\' then
      match rest with
      | [] => none
      | escaped :: after =>
        if spelling.raw || escapes spelling.bytes rest then
          if spelling.bytes && 127 < escaped.toNat then none else afterText? spelling fuel after
        else none
    else if (c = '\n' || c = '\r') && spelling.quotes.length = 1 then none
    else afterText? spelling fuel rest

def text (text : List Char) : Reading := do
  let (spelling, inside) ← spelling? text
  let rest ← afterText? spelling (inside.length + 1) inside
  return (if spelling.bytes then .bytes else .text, rest)

/-- Texts that follow each other are one text; bytes and texts do not mix. -/
def texts (nested : Bool) : (fuel : Nat) → Kind → List Char → Reading
  | 0, kind, rest => some (kind, rest)
  | fuel + 1, kind, rest =>
    match text (skipBlanks nested (rest.length + 1) rest) with
    | some (next, after) => if next = kind then texts nested fuel kind after else none
    | none =>
      match letters? (skipBlanks nested (rest.length + 1) rest) with
      | some _ => none
      | none => some (kind, rest)

/-! ## Expressions -/

def constants : List String := ["None", "True", "False"]

def isReal (kind : Kind) : Bool := kind = .real || kind = .signedReal

/-- What a sign in front of a number makes of it; nothing else has a sign. -/
def signed? : Kind → Option Kind
  | .real => some .signedReal
  | .imaginary => some .signedImaginary
  | _ => none

def tupleKind (kinds : List Kind) : Kind := if kinds.contains .changeable then .changeable else .plain

/-- Whether a line has nothing but blanks and a comment. -/
def isIdle (line : List Char) : Bool := (skipBlanks false line.length line).head?.all (· = '#')

/-- Whether nothing but blanks and comments is left. -/
def isTail (text : List Char) : Bool := (text.splitOn '\n').all isIdle

/-- The text from its first line on that has more than blanks and a comment. -/
def withoutIdle (text : List Char) : List Char :=
  let start := ['\n'].intercalate ((text.splitOn '\n').dropWhile isIdle)
  if start.head? = some '\\' then skipBlanks false start.length start else start

mutual

def atom : (fuel : Nat) → (nested : Bool) → List Char → Reading
  | 0, _, _ => none
  | fuel + 1, nested, input =>
    match input with
    | '(' :: rest => do
      let (kinds, comma, rest) ← items fuel true [] (skipBlanks true (rest.length + 1) rest)
      match kinds, rest with
      | [kind], ')' :: rest => some (if comma then tupleKind [kind] else kind, rest)
      | kinds, ')' :: rest => if kinds.isEmpty && comma then none else some (tupleKind kinds, rest)
      | _, _ => none
    | '\x7b' :: rest => do
      let rest ← braces fuel (skipBlanks true (rest.length + 1) rest)
      some (.changeable, rest)
    | '.' :: '.' :: '.' :: rest => some (.plain, rest)
    | input =>
      match number input with
      | some reading => some reading
      | none =>
        match text input with
        | some (kind, rest) => texts nested rest.length kind rest
        | none =>
          let word := input.takeWhile Text.isWordCharacter
          let rest := input.drop word.length
          if constants.contains (String.ofList word) then some (.plain, rest)
          else if word = "set".toList then
            match skipBlanks nested (rest.length + 1) rest with
            | '(' :: rest =>
              match skipBlanks true (rest.length + 1) rest with
              | ')' :: rest => some (.changeable, rest)
              | _ => none
            | _ => none
          else none

/-- A literal with an optional sign, or the sum of a number and an imaginary one. -/
def item : (fuel : Nat) → (nested : Bool) → List Char → Reading
  | 0, _, _ => none
  | fuel + 1, nested, input => do
    let sign := input.head?.any fun c ↦ c = '+' || c = '-'
    let start := if sign then skipBlanks nested (input.length + 1) (input.drop 1) else input
    let (kind, rest) ← atom fuel nested start
    let kind ← if sign then signed? kind else some kind
    let after := skipBlanks nested (rest.length + 1) rest
    if after.head?.any fun c ↦ c = '+' || c = '-' then
      let (other, rest) ← atom fuel nested (skipBlanks nested (after.length + 1) (after.drop 1))
      if isReal kind && other = .imaginary then some (.plain, skipBlanks nested (rest.length + 1) rest) else none
    else some (kind, after)

/-- Literals with commas between them, and whether a comma was seen. -/
def items : (fuel : Nat) → (nested : Bool) → (before : List Kind) → List Char → Option (List Kind × Bool × List Char)
  | 0, _, _, _ => none
  | fuel + 1, nested, before, input =>
    if input.head? = some ')' || (!nested && isTail input) then some (before, !before.isEmpty, input)
    else do
      let (kind, rest) ← item fuel nested input
      let kinds := before ++ [kind]
      match rest with
      | ',' :: rest => do
        let (kinds, _, rest) ← items fuel nested kinds (skipBlanks nested (rest.length + 1) rest)
        some (kinds, true, rest)
      | rest => some (kinds, !before.isEmpty, rest)

/-- The rest of a set or mapping up to its closing brace. -/
def braces : (fuel : Nat) → List Char → Option (List Char)
  | 0, _ => none
  | fuel + 1, input =>
    match input with
    | '\x7d' :: rest => some rest
    | input => do
      let (kind, rest) ← item fuel true input
      if kind = .changeable then none
      match rest with
      | ':' :: rest => do
        let (_, rest) ← item fuel true (skipBlanks true (rest.length + 1) rest)
        moreEntries fuel true rest
      | rest => moreEntries fuel false rest

/-- What follows an entry of a mapping or a member of a set. -/
def moreEntries : (fuel : Nat) → (mapping : Bool) → List Char → Option (List Char)
  | 0, _, _ => none
  | fuel + 1, mapping, input =>
    match input with
    | '\x7d' :: rest => some rest
    | ',' :: rest =>
      match skipBlanks true (rest.length + 1) rest with
      | '\x7d' :: rest => some rest
      | rest => do
        let (kind, rest) ← item fuel true rest
        if kind = .changeable then none
        if mapping then
          match rest with
          | ':' :: rest => do
            let (_, rest) ← item fuel true (skipBlanks true (rest.length + 1) rest)
            moreEntries fuel true rest
          | _ => none
        else moreEntries fuel false rest
    | _ => none

end

def isLiteral (input : List Char) : Bool :=
  let start := withoutIdle ((Text.unifyLines input).dropWhile fun c ↦ c = ' ' || c = '\t')
  !input.contains '\x00'
    && match items (4 * input.length + 8) false [] start with
      | some (kinds, _, rest) => !kinds.isEmpty && isTail rest
      | none => false

end ContractAudit.Console.Literal
