import ContractAudit.Number.Read
import ContractAudit.Text.Base64
import ContractAudit.Value
import ContractAudit.Yaml.Spelling

/-!
# Writing YAML

Values are written in block style with the keys of mappings in order. A text is written plainly where that reads back
as the same text, between single quotes otherwise, and between double quotes where it holds characters that have to be
escaped. Scalars that reach beyond column 80 are folded at spaces. Bytes, sets and tuples carry a tag.
-/

namespace ContractAudit.Yaml

/-- The column after which scalars are folded. -/
def bestWidth : Nat := 80

/-- Keys of this length or longer, together with their tags, are written after a question mark. -/
def simpleKeyLimit : Nat := 128

inductive ScalarStyle where
  | plain
  | single
  | double
deriving DecidableEq, Repr

def breaksLine (c : Char) : Bool := c = '\n' || c = '\x85' || c.toNat = 0x2028 || c.toNat = 0x2029

/-- Characters that can be written without an escape. -/
def writable (c : Char) : Bool := c = '\n' || (' ' ≤ c && c ≤ '~')

def isGapCharacter (c : Char) : Bool := c = '\x00' || c = ' ' || c = '\t' || c = '\r' || breaksLine c

/-- Whether a text starts with an indicator that a plain scalar cannot start with. -/
def startsWithIndicator : List Char → Bool
  | [] => false
  | c :: rest =>
    "#,[]\x7b\x7d&*!|>'\"%@`".toList.contains c
      || ("?:-".toList.contains c && (rest.isEmpty || rest.head?.any isGapCharacter))

/-- Whether a colon before a gap, or a number sign after one, stands inside a text. -/
def holdsIndicator : (before : Option Char) → List Char → Bool
  | _, [] => false
  | before, c :: rest =>
    (before.isSome
        && ((c = ':' && (rest.isEmpty || rest.head?.any isGapCharacter))
          || (c = '#' && before.any isGapCharacter)))
      || holdsIndicator (some c) rest

def adjacent (first second : Char → Bool) : List Char → Bool
  | c :: d :: rest => (first c && second d) || adjacent first second (d :: rest)
  | _ => false

def isSpace (c : Char) : Bool := c = ' '

/-- Whether a text, not empty, may be written plainly. -/
def allowsPlain (text : List Char) : Bool :=
  spelling text = .text
    && text.all writable && !text.any breaksLine
    && text.head? != some ' ' && text.getLast? != some ' '
    && !(startsWithIndicator text || holdsIndicator none text)
    && text.take 3 != ['-', '-', '-'] && text.take 3 != ['.', '.', '.']

/-- Whether a text may be written between single quotes: line breaks next to spaces need escapes. -/
def allowsSingle (text : List Char) : Bool :=
  text.all writable && !adjacent breaksLine isSpace text && !adjacent isSpace breaksLine text

/-- The style of a text. Keys stand on one line. -/
def scalarStyle (isKey : Bool) (text : List Char) : ScalarStyle :=
  if !text.isEmpty && allowsPlain text then .plain
  else if allowsSingle text && !(isKey && text.any breaksLine) then .single
  else .double

/-! ## Folded scalars

A writer keeps the column it has reached; `indent` is the indentation of the lines that a scalar continues on, and
`none` stands for a scalar that is not folded. -/

def newLine (indent : Nat) : List Char := '\n' :: List.replicate indent ' '

def folds (indent : Option Nat) (column : Nat) : Bool := indent.isSome && bestWidth < column

/-- A plain scalar from a column on: a single space beyond the last column becomes a line break. -/
def plainText (indent : Option Nat) : (before : Option Char) → (column : Nat) → List Char → List Char
  | _, _, [] => []
  | before, column, c :: rest =>
    if c = ' ' && folds indent column && before != some ' ' && rest.head?.any (· != ' ') then
      newLine (indent.getD 0) ++ plainText indent (some c) (indent.getD 0) rest
    else c :: plainText indent (some c) (column + 1) rest

/-- The inside of a single-quoted scalar: quotes are doubled, and the first of several line breaks is written twice. -/
def singleText (indent : Option Nat) : (before : Option Char) → (column : Nat) → List Char → List Char
  | _, _, [] => []
  | before, column, c :: rest =>
    if c = '\n' then
      let opened := if before = some '\n' then ['\n'] else ['\n', '\n']
      if rest.head? = some '\n' then opened ++ singleText indent (some c) 0 rest
      else opened ++ List.replicate (indent.getD 0) ' ' ++ singleText indent (some c) (indent.getD 0) rest
    else if c = '\'' then '\'' :: '\'' :: singleText indent (some c) (column + 2) rest
    else if c = ' ' && folds indent column && before.isSome && before != some ' ' && rest.head?.any (· != ' ') then
      newLine (indent.getD 0) ++ singleText indent (some c) (indent.getD 0) rest
    else c :: singleText indent (some c) (column + 1) rest

def upperHex (width n : Nat) : List Char := (Text.hex width n).map Char.toUpper

def doubleCharacter (c : Char) : List Char :=
  let letters : List (Char × Char) :=
    [('\x00', '0'), ('\x07', 'a'), ('\x08', 'b'), ('\t', 't'), ('\n', 'n'), ('\x0b', 'v'), ('\x0c', 'f'), ('\r', 'r'),
     ('\x1b', 'e'), ('"', '"'), ('\\', '\\'), ('\x85', 'N'), ('\xa0', '_'), (Char.ofNat 0x2028, 'L'),
     (Char.ofNat 0x2029, 'P')]
  match letters.lookup c with
  | some letter => ['\\', letter]
  | none =>
    if ' ' ≤ c ∧ c ≤ '~' then [c]
    else if c.toNat < 0x100 then '\\' :: 'x' :: upperHex 2 c.toNat
    else if c.toNat < 0x10000 then '\\' :: 'u' :: upperHex 4 c.toNat
    else '\\' :: 'U' :: upperHex 8 c.toNat

/-- The inside of a double-quoted scalar, given whether it is at its start and whether an escape was just written.
Beyond the last column a backslash breaks the line, before a space or after an escape, and never before the last
character; a space that then starts a line is escaped too. -/
def doubleText (indent : Option Nat) : (start escape : Bool) → (column : Nat) → List Char → List Char
  | _, _, _, [] => []
  | start, escape, column, c :: rest =>
    let piece := doubleCharacter c
    let mayBreak := indent.isSome && !start && !rest.isEmpty
    let margin := indent.getD 0
    let openLine (next : Option Char) := if next = some ' ' then newLine margin ++ ['\\'] else newLine margin
    let openColumn (next : Option Char) := if next = some ' ' then margin + 1 else margin
    if piece = [c] then
      if mayBreak && (c = ' ' || escape) && bestWidth < column then
        '\\' :: openLine (some c) ++ c :: doubleText indent false false (openColumn (some c) + 1) rest
      else c :: doubleText indent false false (column + 1) rest
    else if mayBreak && bestWidth + 1 < column + piece.length then
      piece ++ '\\' :: openLine rest.head? ++ doubleText indent false true (openColumn rest.head?) rest
    else piece ++ doubleText indent false true (column + piece.length) rest

/-- A text as a scalar that starts in the given column. -/
def writeText (isKey : Bool) (indent column : Nat) (text : List Char) : List Char :=
  let indent := if isKey then none else some indent
  match scalarStyle isKey text with
  | .plain => plainText indent none column text
  | .single => '\'' :: (singleText indent none (column + 1) text ++ ['\''])
  | .double => '"' :: (doubleText indent true false (column + 1) text ++ ['"'])

/-- A floating-point number always has a point, so that it reads back as one. -/
def writeFloat (x : Float) : List Char :=
  if x.isNaN then ".nan".toList
  else if x.isInf then (if x < 0 then "-.inf" else ".inf").toList
  else
    let text := (Number.writeFloat .plain x).toList
    if text.contains '.' then text
    else text.flatMap fun c ↦ if c = 'e' then ".0e".toList else [c]

/-- Bytes in base 64, in lines with the given indentation. -/
def writeBytes (indent : Nat) (content : List UInt8) : List Char :=
  "!!binary ".toList ++
    if content.isEmpty then "''".toList
    else '|' :: (Base64.encodeLines content).flatMap fun line ↦ newLine indent ++ line

/-- The tag of a collection, with the space after it. -/
def writeTag : Value → List Char
  | .tuple _ => "!!python/tuple".toList
  | .set _ => "!!set".toList
  | _ => []

/-- A value that is no collection, or an empty one; `indent` is the indentation of the lines that it continues on. -/
def writeScalar? (isKey : Bool) (indent column : Nat) : Value → Option (List Char)
  | .null => some "null".toList
  | .bool true => some "true".toList
  | .bool false => some "false".toList
  | .int n => some (Number.writeInt n)
  | .float x => some (writeFloat x)
  | .str s => some (writeText isKey indent column s.toList)
  | .date day => some day.text
  | .moment point => some point.text
  | .bytes content => some (writeBytes indent content)
  | .list [] => some "[]".toList
  | .map [] => some "\x7b\x7d".toList
  | .tuple [] => some "!!python/tuple []".toList
  | .set [] => some "!!set \x7b\x7d".toList
  | .list _ => none
  | .map _ => none
  | .tuple _ => none
  | .set _ => none
  | .enclosing _ _ => some "null".toList

/-! ## Keys in order -/

/-- Keys of one group can be put in order. -/
inductive KeyGroup where
  | text
  | number
  | date
  /-- Points in time, by whether they know their place. -/
  | moment (placed : Bool)
  | bytes
deriving DecidableEq, Repr

def keyGroup? : Value → Option KeyGroup
  | .str _ => some .text
  | .int _ | .bool _ | .float _ => some .number
  | .date _ => some .date
  | .moment point => some (.moment point.ahead.isSome)
  | .bytes _ => some .bytes
  | _ => none

/-- Whether keys can be put in order: all are of one group. -/
def comparable (keys : List Value) : Bool :=
  match keys with
  | [] => true
  | key :: rest => (keyGroup? key).isSome && rest.all (keyGroup? · == keyGroup? key)

def integerBefore (n : Int) (x : Float) : Bool :=
  match Number.dyadic? x with
  | none => x > 0
  | some value =>
    let mantissa := value.signed value.mantissa
    if 0 ≤ value.exponent then n < mantissa * Nat.pow 2 value.exponent.toNat
    else n * Nat.pow 2 (-value.exponent).toNat < mantissa

def beforeInteger (x : Float) (n : Int) : Bool :=
  match Number.dyadic? x with
  | none => x < 0
  | some value =>
    let mantissa := value.signed value.mantissa
    if 0 ≤ value.exponent then mantissa * Nat.pow 2 value.exponent.toNat < n
    else mantissa < n * Nat.pow 2 (-value.exponent).toNat

def keyBefore : Value → Value → Bool
  | .str s, .str t => decide (s < t)
  | .date day, .date other => day.ordinal < other.ordinal
  | .moment point, .moment other => point.instant < other.instant
  | .bytes content, .bytes other => decide (content.map UInt8.toNat < other.map UInt8.toNat)
  | .float x, .float y => x < y
  | .float x, other => other.integer?.any (beforeInteger x)
  | other, .float x => other.integer?.any (integerBefore · x)
  | left, right => match left.integer?, right.integer? with
    | some n, some m => decide (n < m)
    | _, _ => false

/-- Entries in the order of their keys; keys that cannot be compared keep their order. -/
def sortEntries (entries : List (Value × List Char)) : List (Value × List Char) :=
  if comparable (entries.map (·.1)) then
    entries.mergeSort fun first second ↦ !keyBefore second.1 first.1
  else entries

/-! ## Block collections -/

/-- How long the tag of a key is, whether or not it is written. -/
def tagLength : Value → Nat
  | .str _ | .int _ => 5
  | .null | .bool _ => 6
  | .float _ => 7
  | _ => 11

/-- Whether a key is written with a colon on its line. -/
def isSimpleKey (key : Value) : Bool :=
  match key with
  | .str s => !s.isEmpty && !s.toList.any breaksLine && s.length + tagLength key < simpleKeyLimit
  | .bytes _ => false
  | key => key.text.length + tagLength key < simpleKeyLimit

def writeKey (indent : Nat) (key : Value) : List Char :=
  if isSimpleKey key then (writeScalar? true 0 indent key).getD [] ++ [':']
  else '?' :: ' ' :: ((writeScalar? false (indent + 2) (indent + 2) key).getD []) ++ newLine indent ++ [':']

/-- Lines with the given indentation; the flag says whether the first of them starts on a new line. -/
def blockLines (indent : Nat) (onNewLine : Bool) (lines : List (List Char)) : List Char :=
  (if onNewLine then newLine indent else []) ++ (newLine indent).intercalate lines

mutual

/-- An entry of a mapping with the given indentation. A sequence below a key on one line is not indented; below a
question mark, collections start on the line of the colon. After a tag, collections start on a new line. -/
def writeEntry (indent : Nat) (key value : Value) : List Char :=
  let written := writeKey indent key
  let column := if isSimpleKey key then indent + written.length + 1 else indent + 2
  let inline := !isSimpleKey key
  match writeScalar? false (indent + 2) column value with
  | some text => written ++ ' ' :: text
  | none =>
    match value with
    | .list items =>
      if inline then written ++ ' ' :: blockLines (indent + 2) false (writeItems (indent + 2) items)
      else written ++ blockLines indent true (writeItems indent items)
    | .tuple items => written ++ ' ' :: (writeTag value ++ blockLines indent true (writeItems indent items))
    | .map entries =>
      let body := (sortEntries (writeEntries (indent + 2) entries)).map (·.2)
      if inline then written ++ ' ' :: blockLines (indent + 2) false body
      else written ++ blockLines (indent + 2) true body
    | .set members =>
      let body := (sortEntries (writeMembers (indent + 2) members)).map (·.2)
      written ++ ' ' :: (writeTag value ++ blockLines (indent + 2) true body)
    | _ => written

/-- The entries of a mapping with the given indentation, each with its key, in the order in which they came. -/
def writeEntries (indent : Nat) : List (Value × Value) → List (Value × List Char)
  | [] => []
  | (key, value) :: rest => (key, writeEntry indent key value) :: writeEntries indent rest

/-- The members of a set, written as the keys of a mapping without values. -/
def writeMembers (indent : Nat) : List Value → List (Value × List Char)
  | [] => []
  | key :: rest => (key, writeKey indent key ++ " null".toList) :: writeMembers indent rest

/-- An item of a sequence with the given indentation. -/
def writeItem (indent : Nat) (item : Value) : List Char :=
  match writeScalar? false (indent + 2) (indent + 2) item with
  | some text => '-' :: ' ' :: text
  | none =>
    '-' :: ' ' :: match item with
    | .list items => blockLines (indent + 2) false (writeItems (indent + 2) items)
    | .tuple items => writeTag item ++ blockLines (indent + 2) true (writeItems (indent + 2) items)
    | .map entries =>
      blockLines (indent + 2) false ((sortEntries (writeEntries (indent + 2) entries)).map (·.2))
    | .set members =>
      writeTag item ++ blockLines (indent + 2) true ((sortEntries (writeMembers (indent + 2) members)).map (·.2))
    | _ => []

def writeItems (indent : Nat) : List Value → List (List Char)
  | [] => []
  | item :: rest => writeItem indent item :: writeItems indent rest

end

/-- A value as a document. -/
def write (value : Value) : String :=
  String.ofList <| (match writeScalar? false 2 0 value with
    | some text => text
    | none =>
      match value with
      | .map entries => blockLines 0 false ((sortEntries (writeEntries 0 entries)).map (·.2))
      | .list items => blockLines 0 false (writeItems 0 items)
      | _ => []) ++ ['\n']

end ContractAudit.Yaml
