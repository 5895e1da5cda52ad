/-!
# Base 64

Bytes written with 64 characters, six bits in each. Reading is lenient: characters outside the alphabet are passed over,
and the text ends where its padding completes a group of four. Writing breaks lines after 76 characters.
-/

namespace ContractAudit.Base64

def alphabet : List Char := "ABCDEFGHIJKLMNOPQRSTUVWXYZabcdefghijklmnopqrstuvwxyz0123456789+/".toList

def sextet? (c : Char) : Option Nat := alphabet.idxOf? c

/-- The bytes in what is left of a text, given how many sextets of the current group came before, the bits of the last
one that belong to the next byte, and how many padding characters came since. Nothing when the last group is broken. -/
def decodeFrom : (place bits pads : Nat) → List Char → Option (List UInt8)
  | place, _, _, [] => if place = 0 then some [] else none
  | place, bits, pads, c :: rest =>
    if c = '=' then
      if 2 ≤ place then
        if 4 ≤ place + pads + 1 then some [] else decodeFrom place bits (pads + 1) rest
      else decodeFrom place bits pads rest
    else match sextet? c with
      | none => decodeFrom place bits pads rest
      | some value =>
        match place with
        | 0 => decodeFrom 1 value 0 rest
        | 1 => (decodeFrom 2 (value % 16) 0 rest).map (UInt8.ofNat (bits * 4 + value / 16) :: ·)
        | 2 => (decodeFrom 3 (value % 4) 0 rest).map (UInt8.ofNat (bits * 16 + value / 4) :: ·)
        | _ => (decodeFrom 0 0 0 rest).map (UInt8.ofNat (bits * 64 + value) :: ·)

def decode? (text : List Char) : Option (List UInt8) := decodeFrom 0 0 0 text

def letter (sextet : Nat) : Char := alphabet[sextet]?.getD 'A'

/-- Bytes as groups of four characters, the last one filled up with padding. -/
def encode : List UInt8 → List Char
  | a :: b :: c :: rest =>
    letter (a.toNat / 4) :: letter (a.toNat % 4 * 16 + b.toNat / 16) :: letter (b.toNat % 16 * 4 + c.toNat / 64)
      :: letter (c.toNat % 64) :: encode rest
  | [a, b] =>
    [letter (a.toNat / 4), letter (a.toNat % 4 * 16 + b.toNat / 16), letter (b.toNat % 16 * 4), '=']
  | [a] => [letter (a.toNat / 4), letter (a.toNat % 4 * 16), '=', '=']
  | [] => []

/-- The lines of 76 characters that a text is broken into; the fuel bounds their number. -/
def linesOf : (fuel : Nat) → List Char → List (List Char)
  | 0, _ => []
  | _ + 1, [] => []
  | fuel + 1, text => text.take 76 :: linesOf fuel (text.drop 76)

def encodeLines (bytes : List UInt8) : List (List Char) :=
  let text := encode bytes
  linesOf text.length text

end ContractAudit.Base64
