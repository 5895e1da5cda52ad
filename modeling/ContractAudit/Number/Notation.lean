import ContractAudit.Number.Shortest

/-!
# Written numbers

Integers are written in decimal. Floating-point numbers are written with the fewest digits that read back: positionally
while the exponent is at least -4 and below 16, and with an exponent of at least two digits otherwise.
-/

namespace ContractAudit.Number

/-- How floating-point numbers are laid out around their shortest digits. -/
structure Style where
  /-- The least exponent that is still written positionally. -/
  least : Int
  /-- The first exponent that is no longer written positionally. -/
  limit : Int
  /-- The least number of digits of an exponent. -/
  exponentWidth : Nat
  infinity : String
  notANumber : String

/-- The layout of numbers in messages and reports. -/
def Style.plain : Style := ⟨-4, 16, 2, "inf", "nan"⟩

/-- The layout of numbers in JSON texts, which differs in the words for what is not finite. -/
def Style.json : Style := { Style.plain with infinity := "Infinity", notANumber := "NaN" }

def zeros (count : Nat) : List Char := List.replicate count '0'

/-- Digits with a decimal point after `point` of them, with zeros where digits are missing. -/
def positional (digits : List Char) (point : Int) : List Char :=
  if point ≤ 0 then '0' :: '.' :: (zeros (-point).toNat ++ digits)
  else
    let whole := digits.take point.toNat
    let fraction := digits.drop point.toNat
    whole ++ zeros (point.toNat - whole.length) ++ '.' :: (if fraction.isEmpty then ['0'] else fraction)

/-- Digits with the point after the first, followed by the exponent. -/
def scientific (style : Style) (digits : List Char) (exponent : Int) : List Char :=
  let mantissa := match digits with
    | [] => ['0']
    | [digit] => [digit]
    | digit :: more => digit :: '.' :: more
  let magnitude := Nat.toDigits 10 exponent.natAbs
  mantissa ++ 'e' :: (if exponent < 0 then '-' else '+')
    :: (zeros (style.exponentWidth - magnitude.length) ++ magnitude)

def Decimal.write (style : Style) (decimal : Decimal) : List Char :=
  let exponent := decimal.point - 1
  if style.least ≤ exponent ∧ exponent < style.limit then positional decimal.significant decimal.point
  else scientific style decimal.significant exponent

def writeFloat (style : Style) (x : Float) : String :=
  match dyadic? x with
  | none =>
    if x.isNaN then style.notANumber
    else if x < 0 then "-" ++ style.infinity else style.infinity
  | some value =>
    let magnitude := if value.mantissa = 0 then "0.0" else String.ofList (value.shortest.write style)
    if value.negative then "-" ++ magnitude else magnitude

/-- The most digits that an integer in decimal notation may have to be read or written. -/
def digitLimit : Nat := 4300

def writeInt (n : Int) : List Char :=
  if n < 0 then '-' :: Nat.toDigits 10 n.natAbs else Nat.toDigits 10 n.natAbs

end ContractAudit.Number
