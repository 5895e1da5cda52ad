import ContractAudit.Number.Read
import ContractAudit.Value

/-!
# Reading JSON

A strict reader for JSON texts. Beyond the standard it knows the words for infinity and not-a-number. A key that comes
twice keeps its first place and its last value. Integers keep all their digits, up to a limit on their number, and
nesting is limited too.
-/

namespace ContractAudit.Json

inductive Fault where
  /-- The text is not JSON, or an integer in it is too long. -/
  | malformed
  /-- Lists and objects are nested too deeply. -/
  | tooDeep
deriving DecidableEq, Repr

/-- How deeply lists and objects may be nested. -/
def maxDepth : Nat := 980

/-- How many digits an integer may have. -/
def maxDigits : Nat := 4300

def isSpace (c : Char) : Bool := c == ' ' || c == '\t' || c == '\n' || c == '\r'

def skipSpace (text : List Char) : List Char := text.dropWhile isSpace

def hexValue? (c : Char) : Option Nat :=
  if '0' ≤ c ∧ c ≤ '9' then some (c.toNat - 48)
  else if 'a' ≤ c ∧ c ≤ 'f' then some (c.toNat - 87)
  else if 'A' ≤ c ∧ c ≤ 'F' then some (c.toNat - 55)
  else none

def escaped? : Char → Option Char
  | '"' => some '"'
  | '\\' => some '\\'
  | '/' => some '/'
  | 'b' => some '\x08'
  | 'f' => some '\x0c'
  | 'n' => some '\n'
  | 'r' => some '\r'
  | 't' => some '\t'
  | _ => none

/-- The code units of a string after its opening quote, and the text after its closing quote. -/
def stringUnits? : List Char → Option (List Nat × List Char)
  | [] => none
  | '"' :: rest => some ([], rest)
  | '\\' :: 'u' :: a :: b :: c :: d :: rest => do
    let unit := ((← hexValue? a) * 4096 + (← hexValue? b) * 256) + ((← hexValue? c) * 16 + (← hexValue? d))
    let (units, after) ← stringUnits? rest
    pure (unit :: units, after)
  | '\\' :: letter :: rest => do
    let c ← escaped? letter
    let (units, after) ← stringUnits? rest
    pure (c.toNat :: units, after)
  | c :: rest => do
    if c.toNat < 32 ∨ c = '\\' then none
    let (units, after) ← stringUnits? rest
    pure (c.toNat :: units, after)

/-- The characters of code units, with the two halves of a character beyond the basic plane joined. A half without the
other one is no character, and the replacement character stands for it. -/
def joinUnits : List Nat → List Char
  | high :: low :: rest =>
    if 0xD800 ≤ high ∧ high < 0xDC00 ∧ 0xDC00 ≤ low ∧ low < 0xE000 then
      Char.ofNat (0x10000 + (high - 0xD800) * 0x400 + (low - 0xDC00)) :: joinUnits rest
    else (if 0xD800 ≤ high ∧ high < 0xE000 then Char.ofNat 0xFFFD else Char.ofNat high) :: joinUnits (low :: rest)
  | [unit] => [if 0xD800 ≤ unit ∧ unit < 0xE000 then Char.ofNat 0xFFFD else Char.ofNat unit]
  | [] => []

def readString (text : List Char) : Except Fault (String × List Char) :=
  match stringUnits? text with
  | some (units, rest) => .ok (String.ofList (joinUnits units), rest)
  | none => .error .malformed

def spanDigits (text : List Char) : List Char × List Char :=
  (text.takeWhile Char.isDigit, text.dropWhile Char.isDigit)

/-- The digits before the point: a zero alone, or digits that do not start with one. -/
def wholePart? : List Char → Option (List Char × List Char)
  | '0' :: rest => some (['0'], rest)
  | text => match spanDigits text with
    | ([], _) => none
    | found => some found

/-- The digits after the point, if both are there. -/
def fractionPart : List Char → List Char × List Char
  | '.' :: rest => match spanDigits rest with
    | ([], _) => ([], '.' :: rest)
    | found => found
  | text => ([], text)

def exponentPart (text : List Char) : Option Int × List Char :=
  match text with
  | mark :: rest =>
    if mark ≠ 'e' ∧ mark ≠ 'E' then (none, text)
    else
      let (negative, digits) := match rest with
        | '-' :: digits => (true, digits)
        | '+' :: digits => (false, digits)
        | digits => (false, digits)
      match spanDigits digits with
      | ([], _) => (none, text)
      | (found, after) => (some (if negative then -(Text.numeral found : Int) else Text.numeral found), after)
  | [] => (none, text)

/-- A number without its sign. -/
def readMagnitude (negative : Bool) (text : List Char) : Except Fault (Value × List Char) :=
  match wholePart? text with
  | none => .error .malformed
  | some (whole, afterWhole) =>
    let (fraction, afterFraction) := fractionPart afterWhole
    let (exponent, rest) := exponentPart afterFraction
    if fraction.isEmpty && exponent.isNone then
      if whole.length > maxDigits then .error .malformed
      else .ok (.int (if negative then -(Text.numeral whole : Int) else Text.numeral whole), rest)
    else
      let x := Number.scaled (Text.numeral (whole ++ fraction)) (exponent.getD 0 - fraction.length)
      .ok (.float (if negative then -x else x), rest)

/-- A value that is neither a list nor an object. -/
def readScalar : List Char → Except Fault (Value × List Char)
  | '"' :: rest => (readString rest).map fun (text, rest) ↦ (.str text, rest)
  | 'n' :: 'u' :: 'l' :: 'l' :: rest => .ok (.null, rest)
  | 't' :: 'r' :: 'u' :: 'e' :: rest => .ok (.bool true, rest)
  | 'f' :: 'a' :: 'l' :: 's' :: 'e' :: rest => .ok (.bool false, rest)
  | 'N' :: 'a' :: 'N' :: rest => .ok (.float Number.notANumber, rest)
  | 'I' :: 'n' :: 'f' :: 'i' :: 'n' :: 'i' :: 't' :: 'y' :: rest => .ok (.float Number.infinity, rest)
  | '-' :: 'I' :: 'n' :: 'f' :: 'i' :: 'n' :: 'i' :: 't' :: 'y' :: rest =>
    .ok (.float (-Number.infinity), rest)
  | '-' :: rest => readMagnitude true rest
  | text => readMagnitude false text

/-- Sets a key: a new one comes last, a known one keeps its place. -/
def setKey (entries : List (Value × Value)) (key : String) (value : Value) : List (Value × Value) :=
  if entries.any fun entry ↦ entry.1.sameKey (.str key) then
    entries.map fun entry ↦ if entry.1.sameKey (.str key) then (entry.1, value) else entry
  else entries ++ [(.str key, value)]

/-- The items of a list after its opening bracket and at least one of them to come. Every item takes at least one
character, so the length of the text bounds their number. -/
def readItems (read : List Char → Except Fault (Value × List Char)) :
    (limit : Nat) → List Char → Except Fault (List Value × List Char)
  | 0, _ => .error .malformed
  | limit + 1, text => do
    let (item, rest) ← read text
    match skipSpace rest with
    | ']' :: rest => pure ([item], rest)
    | ',' :: rest =>
      let (items, rest) ← readItems read limit (skipSpace rest)
      pure (item :: items, rest)
    | _ => .error .malformed

/-- The entries of an object after its opening brace and at least one of them to come. -/
def readEntries (read : List Char → Except Fault (Value × List Char)) :
    (limit : Nat) → List (Value × Value) → List Char → Except Fault (List (Value × Value) × List Char)
  | 0, _, _ => .error .malformed
  | limit + 1, entries, '"' :: text => do
    let (key, rest) ← readString text
    match skipSpace rest with
    | ':' :: rest =>
      let (value, rest) ← read (skipSpace rest)
      let entries := setKey entries key value
      match skipSpace rest with
      | '\x7d' :: rest => pure (entries, rest)
      | ',' :: rest => readEntries read limit entries (skipSpace rest)
      | _ => .error .malformed
    | _ => .error .malformed
  | _ + 1, _, _ => .error .malformed

/-- A value that starts with the text, and the text after it. -/
def readValue : (depth : Nat) → List Char → Except Fault (Value × List Char)
  | 0, '[' :: _ => .error .tooDeep
  | 0, '\x7b' :: _ => .error .tooDeep
  | depth + 1, '[' :: rest =>
    match skipSpace rest with
    | ']' :: rest => .ok (.list [], rest)
    | rest => (readItems (readValue depth) rest.length rest).map fun (items, rest) ↦ (.list items, rest)
  | depth + 1, '\x7b' :: rest =>
    match skipSpace rest with
    | '\x7d' :: rest => .ok (.map [], rest)
    | rest => (readEntries (readValue depth) rest.length [] rest).map fun (entries, rest) ↦ (.map entries, rest)
  | _, text => readScalar text

/-- The value that a whole text writes. -/
def read (text : List Char) : Except Fault Value := do
  let (value, rest) ← readValue maxDepth (skipSpace text)
  match skipSpace rest with
  | [] => pure value
  | _ => .error .malformed

end ContractAudit.Json
