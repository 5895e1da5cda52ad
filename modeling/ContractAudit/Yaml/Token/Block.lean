import ContractAudit.Yaml.Cursor

/-!
# Block scalars

A block scalar starts with a bar or an angle bracket and takes the lines below that are indented deep enough. After a
bar its line breaks are kept; after an angle bracket a single break between two lines that start with text becomes a
space. Its last breaks are dropped, reduced to one, or kept.
-/

namespace ContractAudit.Yaml.Scan

/-- What happens to the line breaks at the end of a block scalar. -/
inductive Chomping where
  | strip
  | clip
  | keep
deriving DecidableEq, Repr

def chomping? : Option Char → Option Chomping
  | some '+' => some .keep
  | some '-' => some .strip
  | _ => none

/-- The digit that says how far a block scalar is indented; a zero is an error. -/
def indentDigit? : ScanM (Option Nat) := do
  match ← peek with
  | some c =>
    if c.isDigit then
      require (c != '0')
      skip 1
      return some (c.toNat - 48)
    else return none
  | none => return none

/-- Chomping and indentation after the mark of a block scalar, in either order. -/
def blockHeader : ScanM (Chomping × Option Nat) := do
  match chomping? (← peek) with
  | some chomping =>
    skip 1
    let digit ← indentDigit?
    require (endsItem (← peek))
    return (chomping, digit)
  | none =>
    let digit ← indentDigit?
    let next ← peek
    let chomping := if digit.isSome then chomping? next else none
    if chomping.isSome then skip 1
    require (endsItem (← peek))
    return (chomping.getD .clip, digit)

/-- Line breaks and spaces before the first line with text, and the deepest column of such a space. -/
def leadingBreaks : (fuel deepest : Nat) → ScanM (List Char × Nat)
  | 0, deepest => return ([], deepest)
  | fuel + 1, deepest => do
    if (← peek) = some ' ' then
      skip 1
      leadingBreaks fuel (max deepest (← get).column)
    else match ← lineBreak with
      | some c =>
        let (breaks, deepest) ← leadingBreaks fuel deepest
        return (c :: breaks, deepest)
      | none => return ([], deepest)

def indentTo (indent : Nat) : ScanM Unit := do
  let cursor ← get
  skip (min (cursor.rest.takeWhile (· = ' ')).length (indent - cursor.column))

/-- Line breaks between lines with text, and the indentation of the next such line. -/
def blockBreaks (indent : Nat) : (fuel : Nat) → ScanM (List Char)
  | 0 => return []
  | fuel + 1 => do
    indentTo indent
    match ← lineBreak with
    | some c => return c :: (← blockBreaks indent fuel)
    | none => return []

/-- The lines of a block scalar from the cursor on: their text, the break after the last of them and the breaks after
that one. -/
def blockLines (folds : Bool) (indent : Nat) : (fuel : Nat) → (breaks : List Char) →
    ScanM (List Char × List Char × List Char)
  | 0, breaks => return ([], [], breaks)
  | fuel + 1, breaks => do
    let cursor ← get
    if cursor.column != indent || cursor.rest.isEmpty then return ([], [], breaks)
    let startsWithText := !cursor.peek.any isWhite
    let line ← takeWhile (!isBreak ·)
    let lineBreak := (← lineBreak).toList
    let more ← blockBreaks indent (fuel + 1)
    let next ← get
    if next.column = indent && !next.rest.isEmpty then
      let joint :=
        if folds && lineBreak == ['\n'] && startsWithText && !next.peek.any isWhite then
          (if more.isEmpty then [' '] else [])
        else lineBreak
      let (text, last, after) ← blockLines folds indent fuel more
      return (breaks ++ line ++ joint ++ text, last, after)
    else return (breaks ++ line, lineBreak, more)

/-- The block scalar that starts here, in a collection with the given indentation; there is none around the document. -/
def block (outer : Option Nat) : ScanM String := do
  let folds := (← peek) = some '>'
  skip 1
  let (chomping, digit) ← blockHeader
  restOfLine
  let least := max 1 ((outer.map (· + 1)).getD 0)
  let fuel := (← get).size + 1
  let (breaks, indent) ← match digit with
    | none => do
      let (breaks, deepest) ← leadingBreaks fuel 0
      pure (breaks, max least deepest)
    | some digit => do
      let indent := least + digit - 1
      pure (← blockBreaks indent fuel, indent)
  let (text, last, after) ← blockLines folds indent fuel breaks
  return String.ofList <| match chomping with
    | .strip => text
    | .clip => text ++ last
    | .keep => text ++ last ++ after

end ContractAudit.Yaml.Scan
