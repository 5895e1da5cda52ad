import ContractAudit.Console.Layout
import ContractAudit.Number.Binary

/-!
# Tables and panels

Boxes drawn with line characters. Every column is as wide as its widest cell, with a space on either side, and widths
are counted in terminal cells. A cell may have several lines. Where a table would be wider than the console, its widest
columns are narrowed.
-/

namespace ContractAudit.Console

open Text

def consoleWidth : Nat := 10000

namespace Table

def header (table : Table) : List (List Char) := table.columns.map (·.header.toList)

def body (table : Table) : List (List (List Char)) := table.rows.map fun row ↦ row.map String.toList

/-- The width that each column needs, with a space on either side. -/
def neededWidths (table : Table) : List Nat :=
  (table.body.foldl (fun widths row ↦ widths.zipWith (fun width cell ↦ max width (measure cell)) row)
    (table.header.map measure)).map (· + 2)

/-- Takes an excess from the widest columns, at most `most` from each; what is left is spread evenly. -/
def reduce (widest most : Nat) : (excess columns : Nat) → List Nat → List Nat
  | _, _, [] => []
  | excess, columns, width :: rest =>
    if width = widest && columns != 0 then
      let taken := min most (Number.divideToEven excess columns)
      (width - taken) :: reduce widest most (excess - taken) (columns - 1) rest
    else width :: reduce widest most excess columns rest

/-- Narrows the widest columns to the next width below theirs, until the columns fit; the fuel bounds the steps. -/
def narrow (limit : Nat) : (fuel : Nat) → List Nat → List Nat
  | 0, widths => widths
  | fuel + 1, widths =>
    let excess := widths.foldl (· + ·) 0 - limit
    let widest := widths.foldl max 0
    let second := (widths.filter (· != widest)).foldl max 0
    if excess = 0 || widest = second then widths
    else narrow limit fuel (reduce widest (min excess (widest - second)) excess (widths.count widest) widths)

/-- The width of each column without the spaces around it. -/
def widths (table : Table) : List Nat :=
  let needed := table.neededWidths
  let limit := consoleWidth - (needed.length + 1)
  (narrow limit (needed.foldl (· + ·) 0) needed).map (· - 2)

def rule (widths : List Nat) (left fill joint right : Char) : List Char :=
  left :: ([joint].intercalate (widths.map fun width ↦ repeated fill (width + 2)) ++ [right])

def rowLines (columns : List Column) (widths : List Nat) (bar : Char) (row : List (List Char)) : List (List Char) :=
  let cells := (columns.zip (widths.zip row)).map fun (column, width, cell) ↦
    (width, (wrap width false cell).map (align column.alignment width))
  let height := cells.foldl (fun height cell ↦ max height cell.2.length) 1
  (List.range height).map fun index ↦
    let pieces := cells.map fun (width, lines) ↦ ' ' :: (lines[index]?.getD (repeated ' ' width) ++ [' '])
    bar :: ([bar].intercalate pieces ++ [bar])

def lines (table : Table) : List (List Char) :=
  let widths := table.widths
  let total := (widths.map (· + 3)).foldl (· + ·) 0 + 1
  center ' ' total table.title.toList
    :: rule widths '┏' '━' '┳' '┓'
    :: rowLines table.columns widths '┃' table.header
    ++ rule widths '┡' '━' '╇' '┩'
    :: (table.body.map (rowLines table.columns widths '│')).flatten
    ++ [rule widths '└' '─' '┴' '┘']

end Table

/-- The lines of a panel around texts, with a title in its upper edge. -/
def panel (title : String) (texts : List String) : List (List Char) :=
  let texts := texts.map String.toList
  let width := (texts.map cells).foldl max 0
  ('╭' :: '─' :: (center '─' width (' ' :: (title.toList ++ [' '])) ++ ['─', '╮']))
    :: (texts.map fun text ↦ '│' :: ' ' :: (align .left width text ++ [' ', '│']))
    ++ ['╰' :: (repeated '─' (width + 2) ++ ['╯'])]

end ContractAudit.Console
