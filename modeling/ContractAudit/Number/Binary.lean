/-!
# Floating-point numbers as exact values

A finite floating-point number is an integer times a power of two. This module reads that exact value off its bits and
decides, without further rounding, what integer is nearest and whether an integer equals it.
-/

namespace ContractAudit.Number

/-- The exact value `mantissa * 2 ^ exponent` of a finite number, with its sign apart so that zero keeps it. -/
structure Dyadic where
  negative : Bool
  mantissa : Nat
  exponent : Int
deriving Repr, DecidableEq

/-- The value of a finite number; infinities and the not-a-number have none. -/
def dyadic? (x : Float) : Option Dyadic :=
  let bits := x.toBits.toNat
  let negative := bits / Nat.pow 2 63 == 1
  let biased : Nat := bits / Nat.pow 2 52 % Nat.pow 2 11
  let fraction : Nat := bits % Nat.pow 2 52
  if biased = 2047 then none
  else if biased = 0 then some ⟨negative, fraction, -1074⟩
  else some ⟨negative, fraction + Nat.pow 2 52, biased - 1075⟩

/-- The integer nearest to a quotient; a half goes to the even neighbour. -/
def divideToEven (numerator denominator : Nat) : Nat :=
  let quotient := numerator / denominator
  let twice := 2 * (numerator % denominator)
  if twice < denominator then quotient
  else if twice > denominator then quotient + 1
  else if quotient % 2 = 0 then quotient else quotient + 1

namespace Dyadic

def signed (value : Dyadic) (magnitude : Nat) : Int :=
  if value.negative then -(magnitude : Int) else magnitude

/-- The nearest integer, with halves to the even neighbour. -/
def nearest (value : Dyadic) : Int :=
  value.signed <|
    if 0 ≤ value.exponent then value.mantissa * Nat.pow 2 value.exponent.toNat
    else divideToEven value.mantissa (Nat.pow 2 (-value.exponent).toNat)

/-- The integer that this value is, when it is one. -/
def integer? (value : Dyadic) : Option Int :=
  if 0 ≤ value.exponent then some (value.signed (value.mantissa * Nat.pow 2 value.exponent.toNat))
  else
    let unit := Nat.pow 2 (-value.exponent).toNat
    if value.mantissa % unit = 0 then some (value.signed (value.mantissa / unit)) else none

end Dyadic

def isInteger (x : Float) (n : Int) : Bool := (dyadic? x).bind Dyadic.integer? == some n

end ContractAudit.Number
