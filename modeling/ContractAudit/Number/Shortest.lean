import ContractAudit.Number.Binary

/-!
# The shortest decimal that reads back

Among the decimals that round to a given positive floating-point number, this module finds one with the fewest digits,
and among those the nearest to the number. The search tries one digit, two digits and so on; on each grid only the two
neighbours of the number can be hits.
-/

namespace ContractAudit.Number

/-- The decimal `digits * 10 ^ exponent`. -/
structure Decimal where
  digits : Nat
  exponent : Int
deriving Repr, DecidableEq

namespace Decimal

def significant (decimal : Decimal) : List Char :=
  ((Nat.toDigits 10 decimal.digits).reverse.dropWhile (· == '0')).reverse

/-- How many digits stand before the decimal point; negative when zeros follow it. -/
def point (decimal : Decimal) : Int := (Nat.toDigits 10 decimal.digits).length + decimal.exponent

end Decimal

/-- The reals that round to a number, as fractions over a common denominator. The ends count when `closed`. -/
structure Rounding where
  low : Nat
  value : Nat
  high : Nat
  denominator : Nat
  closed : Bool
deriving Repr

/-- The rounding interval of `mantissa * 2 ^ exponent`. Just above a power of two the gap below is half as wide. -/
def Rounding.of (mantissa : Nat) (exponent : Int) : Rounding :=
  let below := if mantissa = Nat.pow 2 52 ∧ exponent ≠ -1074 then 1 else 2
  let scale := exponent - 2
  let up := Nat.pow 2 scale.toNat
  let down := Nat.pow 2 (-scale).toNat
  ⟨(4 * mantissa - below) * up, 4 * mantissa * up, (4 * mantissa + 2) * up, down, mantissa % 2 = 0⟩

def Rounding.holds (interval : Rounding) (numerator denominator : Nat) : Bool :=
  let low := interval.low * denominator
  let here := numerator * interval.denominator
  let high := interval.high * denominator
  if interval.closed then low ≤ here && here ≤ high else low < here && here < high

/-- The least `k` with `value < 10 ^ k`, found by counting the digits of numerator and denominator. -/
def Rounding.point (interval : Rounding) : Int :=
  let guess : Int := ((Nat.toDigits 10 interval.value).length : Int)
    - ((Nat.toDigits 10 interval.denominator).length : Int)
  let above (k : Int) : Bool :=
    interval.value * Nat.pow 10 (-k).toNat < interval.denominator * Nat.pow 10 k.toNat
  if above (guess - 1) then guess - 1 else if above guess then guess else guess + 1

/-- The nearest hit on the grid of the given number of digits. -/
def Rounding.onGrid? (interval : Rounding) (point : Int) (count : Nat) : Option Decimal :=
  let scale := point - count
  let numerator := interval.value * Nat.pow 10 (-scale).toNat
  let denominator := interval.denominator * Nat.pow 10 scale.toNat
  let below := numerator / denominator
  let hit (n : Nat) : Bool := interval.holds (n * Nat.pow 10 scale.toNat) (Nat.pow 10 (-scale).toNat)
  let nearer := divideToEven numerator denominator
  let farther := if nearer = below then below + 1 else below
  if hit nearer then some ⟨nearer, scale⟩
  else if hit farther then some ⟨farther, scale⟩
  else none

/-- The decimal found on the first grid with a hit; seventeen digits always suffice. -/
def Rounding.shortest (interval : Rounding) : Decimal :=
  let point := interval.point
  ((List.range 17).findSome? fun count ↦ interval.onGrid? point (count + 1)).getD ⟨interval.value, 0⟩

def Dyadic.shortest (value : Dyadic) : Decimal := (Rounding.of value.mantissa value.exponent).shortest

end ContractAudit.Number
