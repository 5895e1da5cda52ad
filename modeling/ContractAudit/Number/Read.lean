import ContractAudit.Number.Notation
import ContractAudit.Text.Blank
import ContractAudit.Text.Digit

/-!
# Numbers read from text

Decimal notation is read as the nearest floating-point number. The digits of any script are accepted, single
underscores may separate digits, and the words for infinity and not-a-number are numbers too.
-/

namespace ContractAudit.Number

def infinity : Float := 1.0 / 0.0

def notANumber : Float := 0.0 / 0.0

/-- The number nearest to `mantissa * 10 ^ exponent`. Magnitudes beyond every finite number are cut off first, so that
no power of ten larger than needed is computed. -/
def scaled (mantissa : Nat) (exponent : Int) : Float :=
  let magnitude := ((Nat.toDigits 10 mantissa).length : Int) + exponent
  if mantissa = 0 ∨ magnitude < -400 then 0.0
  else if magnitude > 400 then infinity
  else if 0 ≤ exponent then Float.ofScientific mantissa false exponent.toNat
  else Float.ofScientific mantissa true (-exponent).toNat

/-- The number nearest to an integer, unless its magnitude exceeds every finite number. -/
def ofInt? (n : Int) : Option Float :=
  let magnitude := scaled n.natAbs 0
  if magnitude.isInf then none else some (if n < 0 then -magnitude else magnitude)

/-- Digits of any script become ASCII digits; other characters stay. -/
def plainDigit (c : Char) : Char :=
  match Text.digitValue? c with
  | some value => Char.ofNat (48 + value)
  | none => c

/-- Removes underscores that stand between two digits and refuses all others. -/
def joinGroups? : (afterDigit : Bool) → List Char → Option (List Char)
  | _, [] => some []
  | afterDigit, '_' :: rest =>
    if afterDigit && rest.head?.any Char.isDigit then joinGroups? false rest else none
  | _, c :: rest => (joinGroups? c.isDigit rest).map (c :: ·)

def exponent? : List Char → Option Int
  | [] => some 0
  | mark :: rest =>
    if mark ≠ 'e' ∧ mark ≠ 'E' then none
    else
      let (negative, digits) := match rest with
        | '-' :: digits => (true, digits)
        | '+' :: digits => (false, digits)
        | digits => (false, digits)
      if digits.isEmpty ∨ ¬ digits.all Char.isDigit then none
      else some (if negative then -(Text.numeral digits : Int) else Text.numeral digits)

def magnitude? (text : List Char) : Option Float :=
  match String.ofList (text.map Char.toLower) with
  | "inf" | "infinity" => some infinity
  | "nan" => some notANumber
  | _ =>
    let whole := text.takeWhile Char.isDigit
    let afterWhole := text.dropWhile Char.isDigit
    let (fraction, afterFraction) := match afterWhole with
      | '.' :: rest => (rest.takeWhile Char.isDigit, rest.dropWhile Char.isDigit)
      | rest => ([], rest)
    if whole.isEmpty ∧ fraction.isEmpty then none
    else (exponent? afterFraction).map fun exponent ↦
      scaled (Text.numeral (whole ++ fraction)) (exponent - fraction.length)

def readFloat? (text : String) : Option Float := do
  let joined ← joinGroups? false ((Text.trim text.toList).map plainDigit)
  match joined with
  | '-' :: rest => (magnitude? rest).map (-·)
  | '+' :: rest => magnitude? rest
  | rest => magnitude? rest

/-! ## Integers -/

/-- The value of a character as a digit, the letters standing for ten and more. -/
def digitIn? (base : Nat) (c : Char) : Option Nat :=
  let value := if c.isDigit then c.toNat - 48
    else if c.isLower then c.toNat - 87
    else if c.isUpper then c.toNat - 55
    else base
  if value < base then some value else none

/-- The letter that marks a base after a zero. -/
def baseMark? (base : Nat) : Option Char :=
  match base with
  | 2 => some 'b'
  | 8 => some 'o'
  | 16 => some 'x'
  | _ => none

/-- Digits without the mark of their base; an underscore may follow the mark. -/
def afterMark (base : Nat) : List Char → List Char
  | '0' :: mark :: rest =>
    if baseMark? base = some mark.toLower then
      match rest with
      | '_' :: rest => rest
      | rest => rest
    else '0' :: mark :: rest
  | digits => digits

/-- The unsigned integer that a row of digits writes, with single underscores between them. -/
def digitsIn? (base : Nat) : (value : Nat) → (afterDigit : Bool) → List Char → Option Nat
  | value, afterDigit, [] => if afterDigit then some value else none
  | value, afterDigit, '_' :: rest => if afterDigit then digitsIn? base value false rest else none
  | value, _, c :: rest => (digitIn? base c).bind fun digit ↦ digitsIn? base (base * value + digit) true rest

/-- The unsigned integer that a text writes. In a base that is no power of two the number of digits is limited. -/
def unsigned? (base : Nat) (text : List Char) : Option Nat :=
  let digits := afterMark base text
  if (baseMark? base).isNone && digitLimit < (digits.filter (· != '_')).length then none
  else digitsIn? base 0 false digits

def readInt? (base : Nat) (text : List Char) : Option Int :=
  match (Text.trim text).map plainDigit with
  | '-' :: rest => (unsigned? base rest).map fun n ↦ -(n : Int)
  | '+' :: rest => (unsigned? base rest).map Int.ofNat
  | rest => (unsigned? base rest).map Int.ofNat

end ContractAudit.Number
