import ContractAudit.Yaml.Character
import ContractAudit.Yaml.Error

/-!
# Cursors

A cursor stands before what is left of a document and knows its line and column. Scans read from a cursor and move it
on.
-/

namespace ContractAudit.Yaml

structure Cursor where
  /-- The length of the document, which bounds every repetition. -/
  size : Nat
  rest : List Char
  /-- How many characters came before. -/
  index : Nat := 0
  line : Nat := 0
  column : Nat := 0

namespace Cursor

def peek (cursor : Cursor) : Option Char := cursor.rest.head?

def peekAt (cursor : Cursor) (distance : Nat) : Option Char := cursor.rest[distance]?

def advance (cursor : Cursor) : Cursor :=
  match cursor.rest with
  | [] => cursor
  | c :: rest =>
    let cursor := { cursor with rest, index := cursor.index + 1 }
    if isBreak c then { cursor with line := cursor.line + 1, column := 0 }
    else if c = byteOrderMark then cursor
    else { cursor with column := cursor.column + 1 }

def advanceBy : (count : Nat) → Cursor → Cursor
  | 0, cursor => cursor
  | count + 1, cursor => advanceBy count cursor.advance

/-- Whether three hyphens or three dots stand here as a word of their own. -/
def atDocumentMark (cursor : Cursor) (mark : Char) : Bool :=
  cursor.rest.take 3 == [mark, mark, mark] && endsWord (cursor.peekAt 3)

def atSomeDocumentMark (cursor : Cursor) : Bool := cursor.atDocumentMark '-' || cursor.atDocumentMark '.'

end Cursor

/-- A scan reads from a cursor and moves it on. -/
abbrev ScanM := StateT Cursor (Except ReadError)

namespace Scan

def peek : ScanM (Option Char) := return (← get).peek

def skip (count : Nat) : ScanM Unit := modify (Cursor.advanceBy count)

def require (condition : Bool) : ScanM Unit := if condition then pure () else throw .malformed

def takeWhile (property : Char → Bool) : ScanM (List Char) := do
  let taken := (← get).rest.takeWhile property
  skip taken.length
  return taken

def skipSpaces : ScanM Unit := do
  let _ ← takeWhile (· = ' ')

/-- Skips a comment, if one starts here. -/
def skipComment : ScanM Unit := do
  if (← peek) = some '#' then
    let _ ← takeWhile (!isBreak ·)

/-- The text of the line break that stands here, if one does. -/
def lineBreak : ScanM (Option Char) := do
  match ← peek with
  | some c =>
    if isBreak c then
      skip 1
      return some (breakText c)
    else return none
  | none => return none

/-- Skips to the end of a line on which nothing but a comment follows, and its break. -/
def restOfLine : ScanM Unit := do
  skipSpaces
  skipComment
  require (endsLine (← peek))
  let _ ← lineBreak

end Scan

end ContractAudit.Yaml
