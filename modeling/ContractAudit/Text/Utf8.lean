import ContractAudit.Text.Quoted

/-!
# Decoding UTF-8

A text file is a list of bytes. Decoding stops at the first bytes that are not UTF-8 and tells where they are and what
is wrong with them.
-/

namespace ContractAudit.Text

/-- What is wrong with bytes that are not UTF-8. -/
inductive Utf8Fault where
  | start
  | continuation
  | truncated
deriving DecidableEq, Repr

def Utf8Fault.message : Utf8Fault → String
  | start => "invalid start byte"
  | continuation => "invalid continuation byte"
  | truncated => "unexpected end of data"

/-- Bytes that are not UTF-8: the first of them, its position, and how many they are. -/
structure Utf8Error where
  fault : Utf8Fault
  byte : UInt8
  position : Nat
  length : Nat
deriving DecidableEq, Repr

def Utf8Error.message (error : Utf8Error) : String :=
  let place := if error.length = 1 then
      "byte 0x" ++ String.ofList (hex 2 error.byte.toNat) ++ " in position " ++ toString error.position
    else "bytes in position " ++ toString error.position ++ "-" ++ toString (error.position + error.length - 1)
  "'utf-8' codec can't decode " ++ place ++ ": " ++ error.fault.message

def isContinuation (byte : UInt8) : Bool := 0x80 ≤ byte && byte < 0xC0

/-- How many bytes follow a first byte; nothing for a byte that starts no character. -/
def followers? (byte : UInt8) : Option Nat :=
  if byte < 0x80 then some 0
  else if 0xC2 ≤ byte && byte < 0xE0 then some 1
  else if 0xE0 ≤ byte && byte < 0xF0 then some 2
  else if 0xF0 ≤ byte && byte < 0xF5 then some 3
  else none

/-- Whether a byte may stand second: overlong spellings, surrogates and code points beyond the last are refused. -/
def isSecond (first second : UInt8) : Bool :=
  isContinuation second
    && !(first = 0xE0 && second < 0xA0) && !(first = 0xED && 0xA0 ≤ second)
    && !(first = 0xF0 && second < 0x90) && !(first = 0xF4 && 0x90 ≤ second)

/-- How many of the bytes after the first one are as they should be. -/
def goodFollowers (first : UInt8) : List UInt8 → Nat
  | [] => 0
  | second :: rest => if isSecond first second then 1 + (rest.takeWhile isContinuation).length else 0

def codePoint (first : UInt8) (following : List UInt8) : Nat :=
  let lead := match following.length with
    | 0 => first.toNat
    | 1 => first.toNat % 0x20
    | 2 => first.toNat % 0x10
    | _ => first.toNat % 0x08
  following.foldl (fun code byte ↦ 0x40 * code + byte.toNat % 0x40) lead

/-- Decodes bytes, of which the first `skip` belong to the character before them. -/
def decodeFrom (position : Nat) : (skip : Nat) → List UInt8 → Except Utf8Error (List Char)
  | _, [] => .ok []
  | skip + 1, _ :: rest => decodeFrom (position + 1) skip rest
  | 0, byte :: rest =>
    match followers? byte with
    | none => .error ⟨.start, byte, position, 1⟩
    | some count =>
      let following := rest.take count
      let good := goodFollowers byte following
      if good = count then
        (decodeFrom (position + 1) count rest).map (Char.ofNat (codePoint byte following) :: ·)
      else if good = following.length then .error ⟨.truncated, byte, position, good + 1⟩
      else .error ⟨.continuation, byte, position, good + 1⟩

def decodeUtf8 (bytes : List UInt8) : Except Utf8Error (List Char) := decodeFrom 0 0 bytes

/-- Line ends of every kind become line feeds. -/
def unifyLines : List Char → List Char
  | [] => []
  | '\r' :: '\n' :: rest => '\n' :: unifyLines rest
  | '\r' :: rest => '\n' :: unifyLines rest
  | c :: rest => c :: unifyLines rest

end ContractAudit.Text
