import ContractAudit.Library
import ContractAudit.Text.Blank
import ContractAudit.Text.CellWidth
import ContractAudit.Text.Lines

/-!
# Laying out text

A text is laid out in lines of a given width, counted in terminal cells. Lines are broken between words; a word that is
wider than a line is either cut into pieces or shortened with an ellipsis. Tabs reach to the next multiple of eight
cells, but count nothing when the width of a text is measured.
-/

namespace ContractAudit.Console

open Text

def repeated (character : Char) (count : Nat) : List Char := List.replicate count character

/-! ## Measures -/

/-- Characters at which the lines of a text end when it is measured. -/
def isLineSeparator (c : Char) : Bool :=
  c = '\n' || ('\x1c' ≤ c && c ≤ '\x1e') || c = '\x85' || c.toNat = 0x2028 || c.toNat = 0x2029

def measure (text : List Char) : Nat := ((text.splitOnP isLineSeparator).map cells).foldl max 0

/-! ## Tabs -/

def tabWidth : Nat := 8

/-- A line from a cell on, with spaces in place of tabs. -/
def expandTabsFrom : (position : Nat) → List Char → List Char
  | _, [] => []
  | position, c :: rest =>
    if c = '\t' then
      let missing := (tabWidth - (position + 1) % tabWidth) % tabWidth
      ' ' :: (repeated ' ' missing ++ expandTabsFrom (position + 1 + missing) rest)
    else c :: expandTabsFrom (position + cellWidth c) rest

/-! ## Words -/

/-- The words of a line, each with the blanks after it; the first also has the blanks before it. -/
def wordsOf : (fuel : Nat) → List Char → List (List Char)
  | 0, _ => []
  | fuel + 1, line =>
    let before := line.takeWhile isBlank
    let word := (line.drop before.length).takeWhile fun c ↦ !isBlank c
    let after := (line.drop (before.length + word.length)).takeWhile isBlank
    let whole := before ++ word ++ after
    if word.isEmpty then [] else whole :: wordsOf fuel (line.drop whole.length)

/-- The pieces of a word that fit into a width, as many characters as possible in each. -/
def chop (width : Nat) : (piece : List Char) → (taken : Nat) → List Char → List (List Char)
  | piece, _, [] => [piece.reverse]
  | piece, taken, c :: rest =>
    if width < taken + cellWidth c then piece.reverse :: chop width [c] (cellWidth c) rest
    else chop width (c :: piece) (taken + cellWidth c) rest

/-- The places before all pieces but the first, from a place on. -/
def placesOf : (place : Nat) → List (List Char) → List Nat
  | place, piece :: rest => place :: placesOf (place + piece.length) rest
  | _, [] => []

/-- Where a line is broken, given the words that are left, the place of the next one and the cells that are taken. -/
def breaksFrom (width : Nat) (folds : Bool) : (place taken : Nat) → List (List Char) → List Nat
  | _, _, [] => []
  | place, taken, word :: rest =>
    let next := place + word.length
    let needed := cells (trimEnd word)
    if taken + needed ≤ width then breaksFrom width folds next (taken + cells word) rest
    else if width < needed then
      if folds then
        let pieces := chop width [] 0 word
        (placesOf place pieces).filter (· != 0)
          ++ breaksFrom width folds next (cells (pieces.getLast?.getD [])) rest
      else (if place = 0 then [] else [place]) ++ breaksFrom width folds next (cells word) rest
    else if taken != 0 && place != 0 then place :: breaksFrom width folds next (cells word) rest
    else breaksFrom width folds next taken rest

/-- The parts of a line between places, from a place on. -/
def cutAt (place : Nat) (line : List Char) : List Nat → List (List Char)
  | [] => [line]
  | next :: rest => line.take (next - place) :: cutAt next (line.drop (next - place)) rest

/-- Removes blanks at the end of a line that is longer than a width, as far as it is. -/
def cropEnd (width : Nat) (line : List Char) : List Char :=
  let blanks := line.length - (trimEnd line).length
  line.take (line.length - min blanks (line.length - width))

/-- A text in lines that are broken between words. -/
def wrap (width : Nat) (folds : Bool) (text : List Char) : List (List Char) :=
  (splitLines text).flatMap fun line ↦
    let line := expandTabsFrom 0 line
    (cutAt 0 line (breaksFrom width folds 0 0 (wordsOf line.length line))).map (cropEnd width)

/-! ## Single lines -/

/-- The start of a text that takes exactly `total` cells, found by halving; a wide character that does not fit becomes a
space. The fuel bounds the steps. -/
def startBetween (total : Nat) (text : List Char) : (fuel low high : Nat) → List Char
  | 0, low, _ => text.take low
  | fuel + 1, low, high =>
    let place := (low + high) / 2
    let start := text.take (place + 1)
    if cells start = total + 1 && (start.getLast?.map cellWidth) = some 2 then start.dropLast ++ [' ']
    else if cells start = total then start
    else if total < cells start then startBetween total text fuel low place
    else startBetween total text fuel place high

/-- The text cut or filled up to `total` cells. -/
def resize (total : Nat) (text : List Char) : List Char :=
  if total = 0 then []
  else if cells text ≤ total then text ++ repeated ' ' (total - cells text)
  else startBetween total text (text.length + 1) 0 text.length

/-- A line that is too wide ends with an ellipsis. -/
def shorten (width : Nat) (line : List Char) : List Char :=
  if width < cells line then resize (width - 1) line ++ ['…'] else line

def align (alignment : Alignment) (width : Nat) (line : List Char) : List Char :=
  match alignment with
  | .left =>
    let line := shorten width line
    line ++ repeated ' ' (width - cells line)
  | .right =>
    let line := shorten width (trimEnd line)
    repeated ' ' (width - cells line) ++ line

/-- A text in the middle of a line of one character; of an odd remainder the larger half is on the right. -/
def center (character : Char) (width : Nat) (text : List Char) : List Char :=
  let missing := width - cells text
  repeated character (missing / 2) ++ text ++ repeated character (missing - missing / 2)

end ContractAudit.Console
