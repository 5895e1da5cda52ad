import ContractAudit.Number.Read
import ContractAudit.Text.Base64
import ContractAudit.Text.LetterCase
import ContractAudit.Value
import ContractAudit.Yaml.Error

/-!
# Values of scalars

What a text stands for as a truth value, a number, a point in time or bytes. A tag may ask for a value that the text
does not spell, so each reading may fail in its own way.
-/

namespace ContractAudit.Yaml

def betweenColons : List Char → List (List Char)
  | [] => [[]]
  | ':' :: rest => [] :: betweenColons rest
  | c :: rest =>
    match betweenColons rest with
    | [] => [[c]]
    | part :: parts => (c :: part) :: parts

/-- A value that a text may not have. -/
def orNone {α : Type} (value : Option α) : Except ReadError α :=
  match value with
  | some value => .ok value
  | none => .error .noSuchValue

def truthWords : List (String × Bool) :=
  [("yes", true), ("no", false), ("true", true), ("false", false), ("on", true), ("off", false)]

def boolOf (text : List Char) : Except ReadError Bool :=
  match truthWords.lookup (Text.lower (String.ofList text)) with
  | some truth => .ok truth
  | none => .error .unknownWord

def signed (text : List Char) : Except ReadError (Bool × List Char) :=
  match text.filter (· != '_') with
  | [] => .error .emptyNumber
  | '-' :: rest => .ok (true, rest)
  | '+' :: rest => .ok (false, rest)
  | rest => .ok (false, rest)

/-- The integer after the sign: in base 2 or 16 after their marks, in base 8 after a zero, in base 60 with colons, and
in base 10 otherwise. -/
def unsignedInt : List Char → Except ReadError Int
  | [] => .error .emptyNumber
  | ['0'] => .ok 0
  | '0' :: 'b' :: digits => orNone (Number.readInt? 2 digits)
  | '0' :: 'x' :: digits => orNone (Number.readInt? 16 digits)
  | '0' :: digits => orNone (Number.readInt? 8 ('0' :: digits))
  | text => do
    let places ← (betweenColons text).mapM fun part ↦ orNone (Number.readInt? 10 part)
    return places.foldl (fun total place ↦ 60 * total + place) 0

def intOf (text : List Char) : Except ReadError Int := do
  let (negative, rest) ← signed text
  let magnitude ← unsignedInt rest
  return if negative then -magnitude else magnitude

/-- A sexagesimal number: the last place counts once, each place before it sixty times the one after it. -/
def sexagesimal (places : List Float) : Except ReadError Float :=
  (places.reverse.zipIdx).foldlM (fun total (place, power) ↦
    match Number.ofInt? (Nat.pow 60 power) with
    | some base => .ok (total + place * base)
    | none => .error .tooLarge) 0.0

def unsignedFloat (text : List Char) : Except ReadError Float :=
  if text = ".inf".toList then .ok Number.infinity
  else if text = ".nan".toList then .ok Number.notANumber
  else if text.contains ':' then do
    sexagesimal (← (betweenColons text).mapM fun part ↦ orNone (Number.readFloat? (String.ofList part)))
  else orNone (Number.readFloat? (String.ofList text))

def floatOf (text : List Char) : Except ReadError Float := do
  let (negative, rest) ← signed (Text.lower (String.ofList text)).toList
  let magnitude ← unsignedFloat rest
  return if negative then -magnitude else magnitude

def bytesOf (text : List Char) : Except ReadError (List UInt8) :=
  if text.all (·.toNat < 128) then
    match Base64.decode? text with
    | some bytes => .ok bytes
    | none => .error .malformed
  else .error .malformed

/-! ## Points in time -/

/-- Digits in front, at least and at most as many as given, and what follows them. -/
def digitsAt? (least most : Nat) (text : List Char) : Option (List Char × List Char) :=
  let digits := (text.take most).takeWhile Char.isDigit
  if least ≤ digits.length then some (digits, text.drop digits.length) else none

def after? (c : Char) (text : List Char) : Option (List Char) :=
  if text.head? = some c then some (text.drop 1) else none

/-- What stands between a date and a time of day, if a time follows. -/
def afterDate? (text : List Char) : Option (List Char) :=
  match text with
  | 'T' :: rest => some rest
  | 't' :: rest => some rest
  | rest =>
    let time := rest.dropWhile fun c ↦ c = ' ' || c = '\t'
    if time.length < rest.length then some time else none

/-- Whether nothing but a line break is left. -/
def isOver (text : List Char) : Bool := text.isEmpty || text == ['\n']

/-- The offset of the clocks from universal time, in minutes, if the rest of a text tells one or is over. -/
def ahead? (text : List Char) : Option (Option Int) :=
  if isOver text then some none
  else
    match text.dropWhile fun c ↦ c = ' ' || c = '\t' with
    | 'Z' :: rest => if isOver rest then some (some 0) else none
    | sign :: rest =>
      if sign = '+' ∨ sign = '-' then do
        let (hours, rest) ← digitsAt? 1 2 rest
        let (minutes, rest) ← match after? ':' rest with
          | some rest => digitsAt? 2 2 rest
          | none => some ([], rest)
        if !isOver rest then failure
        let total : Int := Text.numeral hours * 60 + Text.numeral minutes
        return some (if sign = '-' then -total else total)
      else none
    | [] => none

/-- The digits of a fraction of a second as microseconds; digits beyond the sixth are dropped. -/
def microseconds (digits : List Char) : Nat := Text.numeral ((digits ++ Number.zeros 6).take 6)

structure TimeNumbers where
  year : Nat
  month : Nat
  day : Nat
  /-- Hour, minute, second, microseconds and the offset of the clocks, unless the text is a date. -/
  time : Option (Nat × Nat × Nat × Nat × Option Int)

def timeNumbers? (text : List Char) : Option TimeNumbers := do
  let (year, rest) ← digitsAt? 4 4 text
  let (month, rest) ← digitsAt? 1 2 (← after? '-' rest)
  let (day, rest) ← digitsAt? 1 2 (← after? '-' rest)
  let numbers : TimeNumbers := ⟨Text.numeral year, Text.numeral month, Text.numeral day, none⟩
  if isOver rest then return numbers
  let (hour, rest) ← digitsAt? 1 2 (← afterDate? rest)
  let (minute, rest) ← digitsAt? 2 2 (← after? ':' rest)
  let (second, rest) ← digitsAt? 2 2 (← after? ':' rest)
  let (fraction, rest) := match after? '.' rest with
    | some rest => (rest.takeWhile Char.isDigit, rest.dropWhile Char.isDigit)
    | none => ([], rest)
  let ahead ← ahead? rest
  return { numbers with
    time := some (Text.numeral hour, Text.numeral minute, Text.numeral second, microseconds fraction, ahead) }

def timeOf (text : List Char) : Except ReadError Value := do
  let some numbers := timeNumbers? text | throw .notTime
  let date ← orNone (Date.make? numbers.year numbers.month numbers.day)
  match numbers.time with
  | none => return .date date
  | some (hour, minute, second, microsecond, ahead) =>
    return .moment (← orNone (Moment.make? date hour minute second microsecond ahead))

end ContractAudit.Yaml
