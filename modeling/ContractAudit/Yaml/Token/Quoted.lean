import ContractAudit.Yaml.Cursor

/-!
# Quoted scalars

A scalar between single quotes has one escape, the quote written twice; one between double quotes has escapes that start
with a backslash. In both, a line break stands for a space, and of several line breaks the first one is dropped.
-/

namespace ContractAudit.Yaml.Scan

/-- The letters that stand for single characters after a backslash. -/
def letterEscapes : List (Char × Char) :=
  [('0', '\x00'), ('a', '\x07'), ('b', '\x08'), ('t', '\t'), ('\t', '\t'), ('n', '\n'), ('v', '\x0b'), ('f', '\x0c'),
   ('r', '\r'), ('e', '\x1b'), (' ', ' '), ('"', '"'), ('\\', '\\'), ('/', '/'), ('N', '\x85'), ('_', '\xa0'),
   ('L', Char.ofNat 0x2028), ('P', Char.ofNat 0x2029)]

/-- The letters that announce hexadecimal digits, and how many of them. -/
def codeEscapes : List (Char × Nat) := [('x', 2), ('u', 4), ('U', 8)]

/-- The character with a code point; codes that are reserved for pairs of code units become the replacement mark. -/
def characterOf (code : Nat) : ScanM Char :=
  if 0x7FFFFFFF < code then throw .tooLarge
  else if 0x10FFFF < code then throw .noSuchValue
  else if 0xD800 ≤ code ∧ code ≤ 0xDFFF then return Char.ofNat 0xFFFD
  else return Char.ofNat code

/-- Line breaks with the blanks around them; a mark between documents is an error. The fuel bounds their number. -/
def foldedBreaks : (fuel : Nat) → ScanM (List Char)
  | 0 => return []
  | fuel + 1 => do
    require !(← get).atSomeDocumentMark
    let _ ← takeWhile isWhite
    match ← lineBreak with
    | some c => return c :: (← foldedBreaks fuel)
    | none => return []

def folded (first : Char) (more : List Char) : List Char :=
  if first != '\n' then first :: more
  else if more.isEmpty then [' ']
  else more

def escape : ScanM (List Char) := do
  skip 1
  let some c ← peek | throw .malformed
  match letterEscapes.lookup c, codeEscapes.lookup c with
  | some meant, _ =>
    skip 1
    return [meant]
  | none, some count =>
    skip 1
    let digits := (← get).rest.take count
    require (digits.length = count && digits.all isHexDigit)
    let meant ← characterOf (hexNumber digits)
    skip count
    return [meant]
  | none, none =>
    require (isBreak c)
    let _ ← lineBreak
    foldedBreaks ((← get).size + 1)

/-- Blanks inside a quoted scalar, with the line breaks among them. -/
def quotedGap : ScanM (List Char) := do
  let blanks ← takeWhile isWhite
  match ← peek with
  | none => throw .malformed
  | some c =>
    if isBreak c then
      let _ ← lineBreak
      return folded (breakText c) (← foldedBreaks ((← get).size + 1))
    else return blanks

/-- What follows inside a quoted scalar, up to its closing quote; the fuel bounds the number of pieces. -/
def quotedPieces (quote : Char) : (fuel : Nat) → ScanM (List Char)
  | 0 => throw .malformed
  | fuel + 1 => do
    let piece ← takeWhile fun c ↦ !(c = '\'' || c = '"' || c = '\\' || isWhite c || isBreak c)
    let cursor ← get
    match cursor.peek with
    | some c =>
      if c = quote then
        if quote = '\'' && cursor.peekAt 1 = some '\'' then
          skip 2
          return piece ++ '\'' :: (← quotedPieces quote fuel)
        else
          skip 1
          return piece
      else if c = '\\' && quote = '"' then
        let meant ← escape
        return piece ++ meant ++ (← quotedPieces quote fuel)
      else if c = '\'' || c = '"' || c = '\\' then
        skip 1
        return piece ++ c :: (← quotedPieces quote fuel)
      else
        let gap ← quotedGap
        return piece ++ gap ++ (← quotedPieces quote fuel)
    | none => throw .malformed

def quoted (quote : Char) : ScanM String := do
  skip 1
  return String.ofList (← quotedPieces quote ((← get).size + 1))

end ContractAudit.Yaml.Scan
