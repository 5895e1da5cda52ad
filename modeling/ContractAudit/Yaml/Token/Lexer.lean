import ContractAudit.Yaml.Token.Block
import ContractAudit.Yaml.Token.Plain
import ContractAudit.Yaml.Token.Tag

/-!
# From characters to tokens

A key of a mapping is known as one only when its colon comes. Until then the place of its first token is kept as a
candidate, one for each depth of brackets; the colon inserts the token of the key there. A candidate is given up after
its line or after 1024 characters. The indentation of block collections is kept on a stack, and a line that is indented
less ends them.

Tokens are read on demand: whoever takes them sees a token only when no candidate in front of it is open. So an error in
the text hides the tokens from the first open candidate on.
-/

namespace ContractAudit.Yaml

/-- A token that may turn out to be the first one of a key. -/
structure Candidate where
  /-- The depth of brackets around it. -/
  depth : Nat
  /-- How many tokens come before it. -/
  place : Nat
  /-- Whether nothing but a key can stand there. -/
  required : Bool
  index : Nat
  line : Nat
  column : Nat

structure Lexer where
  cursor : Cursor
  tokens : Array Token := #[]
  /-- The depth of brackets. -/
  depth : Nat := 0
  /-- The columns of the open block collections, the innermost first. -/
  indents : List Nat := []
  /-- Whether a key may start at the cursor. -/
  keyAllowed : Bool := true
  candidates : List Candidate := []
  finished : Bool := false

namespace Lexer

/-- The farthest that a colon may be from the start of its key. -/
def keyLimit : Nat := 1024

/-- Brackets that are nested deeper than this are not read: whoever takes the tokens gives up long before. -/
def bracketLimit : Nat := 2000

/-- The state is kept when an error comes up. -/
abbrev LexM := ExceptT ReadError (StateM Lexer)

def require (condition : Bool) : LexM Unit := if condition then pure () else throw .malformed

def scan {α : Type} (scanned : ScanM α) : LexM α := do
  match scanned.run (← get).cursor with
  | .ok (value, cursor) => do
    modify ({ · with cursor })
    return value
  | .error error => throw error

def push (token : Token) : LexM Unit := modify fun lexer ↦ { lexer with tokens := lexer.tokens.push token }

def allowKey (keyAllowed : Bool) : LexM Unit := modify ({ · with keyAllowed })

def inBrackets : LexM Bool := return (← get).depth != 0

/-! ## Candidates -/

def isStale (cursor : Cursor) (candidate : Candidate) : Bool :=
  candidate.line != cursor.line || keyLimit < cursor.index - candidate.index

/-- Gives up the candidates whose colon can no longer come. -/
def dropStale : LexM Unit := do
  let lexer ← get
  let (stale, fresh) := lexer.candidates.partition (isStale lexer.cursor)
  require (stale.all (!·.required))
  modify ({ · with candidates := fresh })

/-- Gives up the candidate at this depth. -/
def dropCandidate : LexM Unit := do
  let lexer ← get
  let (here, others) := lexer.candidates.partition (·.depth = lexer.depth)
  require (here.all (!·.required))
  modify ({ · with candidates := others })

/-- Makes the next token a candidate, where a key is allowed. -/
def addCandidate : LexM Unit := do
  if (← get).keyAllowed then
    dropCandidate
    let lexer ← get
    let required := lexer.depth = 0 && lexer.indents.head? = some lexer.cursor.column
    let candidate : Candidate :=
      { depth := lexer.depth, place := lexer.tokens.size, required, index := lexer.cursor.index,
        line := lexer.cursor.line, column := lexer.cursor.column }
    modify fun lexer ↦ { lexer with candidates := candidate :: lexer.candidates }

/-! ## Indentation -/

/-- Ends the block collections that start to the right of a column; without a column, all of them. -/
def closeBlocks (column : Option Nat) : LexM Unit := do
  let lexer ← get
  if lexer.depth = 0 then
    let closed := lexer.indents.takeWhile fun indent ↦ column.all (· < indent)
    modify fun lexer ↦
      { lexer with
        indents := lexer.indents.drop closed.length
        tokens := closed.foldl (fun tokens _ ↦ tokens.push .blockEnd) lexer.tokens }

/-- Opens a block collection at a column, unless one is open there; tells whether it did. -/
def openBlock (column : Nat) : LexM Bool := do
  if (← get).indents.head?.all (· < column) then
    modify fun lexer ↦ { lexer with indents := column :: lexer.indents }
    return true
  else return false

/-! ## Tokens -/

/-- Skips spaces, comments and line breaks. Outside of brackets a key may start on a new line. -/
def skipToToken : (fuel : Nat) → LexM Unit
  | 0 => return
  | fuel + 1 => do
    let ended ← scan do
      Scan.skipSpaces
      Scan.skipComment
      Scan.lineBreak
    if ended.isSome then
      if !(← inBrackets) then allowKey true
      skipToToken fuel

def lexEnd : LexM Unit := do
  closeBlocks none
  dropCandidate
  allowKey false
  push .streamEnd
  modify ({ · with candidates := [], finished := true })

def lexDirective : LexM Unit := do
  closeBlocks none
  dropCandidate
  allowKey false
  push (.directive (← scan Scan.directive))

def lexDocumentMark (token : Token) : LexM Unit := do
  closeBlocks none
  dropCandidate
  allowKey false
  scan (Scan.skip 3)
  push token

def lexOpening (token : Token) : LexM Unit := do
  if bracketLimit < (← get).depth then throw .tooDeep
  addCandidate
  modify fun lexer ↦ { lexer with depth := lexer.depth + 1 }
  allowKey true
  scan (Scan.skip 1)
  push token

def lexClosing (token : Token) : LexM Unit := do
  dropCandidate
  modify fun lexer ↦ { lexer with depth := lexer.depth - 1 }
  allowKey false
  scan (Scan.skip 1)
  push token

def lexComma : LexM Unit := do
  allowKey true
  dropCandidate
  scan (Scan.skip 1)
  push .flowEntry

/-- Outside of brackets, opens a block collection for an indicator at the cursor, which has to stand where a key may. -/
def openBlockHere (start : Token) : LexM Unit := do
  if !(← inBrackets) then
    require (← get).keyAllowed
    if ← openBlock (← get).cursor.column then push start

def lexEntry : LexM Unit := do
  openBlockHere .blockSequenceStart
  allowKey true
  dropCandidate
  scan (Scan.skip 1)
  push .blockEntry

def lexKey : LexM Unit := do
  openBlockHere .blockMappingStart
  allowKey !(← inBrackets)
  dropCandidate
  scan (Scan.skip 1)
  push .key

def insertAt (candidate : Candidate) (token : Token) : LexM Unit :=
  modify fun lexer ↦ { lexer with tokens := lexer.tokens.insertIdxIfInBounds candidate.place token }

/-- A colon turns the candidate at its depth into a key. -/
def lexValue : LexM Unit := do
  let lexer ← get
  match lexer.candidates.find? (·.depth = lexer.depth) with
  | some candidate =>
    modify ({ · with candidates := lexer.candidates.filter (·.depth != lexer.depth) })
    insertAt candidate .key
    if !(← inBrackets) then
      if ← openBlock candidate.column then insertAt candidate .blockMappingStart
    allowKey false
  | none =>
    openBlockHere .blockMappingStart
    allowKey !(← inBrackets)
    dropCandidate
  scan (Scan.skip 1)
  push .value

/-- A token that may start a key. -/
def lexNode (token : ScanM Token) : LexM Unit := do
  addCandidate
  allowKey false
  push (← scan token)

def lexBlockScalar : LexM Unit := do
  allowKey true
  dropCandidate
  let text ← scan (Scan.block (← get).indents.head?)
  push (.scalar text false)

def lexPlain : LexM Unit := do
  addCandidate
  let lexer ← get
  let indent := match lexer.indents.head? with
    | some column => column + 1
    | none => 0
  let (text, lineEnded) ← scan (Scan.plain ⟨lexer.depth != 0, indent⟩)
  allowKey lineEnded
  push (.scalar text true)

/-- Whether a plain scalar may start with the next two characters. -/
def startsPlain (flow : Bool) (c : Char) (next : Option Char) : Bool :=
  !(isWhite c || isBreak c || "-?:,[]\x7b\x7d#&*!|>'\"%@`".toList.contains c)
    || (!endsWord next && (c = '-' || (!flow && (c = '?' || c = ':'))))

/-- Reads the next token, with all that belongs before it. -/
def lexNext : LexM Unit := do
  if (← get).cursor.index = 0 && (← get).cursor.peek = some byteOrderMark then scan (Scan.skip 1)
  skipToToken ((← get).cursor.size + 1)
  dropStale
  closeBlocks (some (← get).cursor.column)
  let cursor := (← get).cursor
  let flow ← inBrackets
  let next := cursor.peekAt 1
  match cursor.peek with
  | none => lexEnd
  | some c =>
    if c = '%' && cursor.column = 0 then lexDirective
    else if cursor.column = 0 && cursor.atDocumentMark '-' then lexDocumentMark .documentStart
    else if cursor.column = 0 && cursor.atDocumentMark '.' then lexDocumentMark .documentEnd
    else if c = '[' then lexOpening .flowSequenceStart
    else if c = '\x7b' then lexOpening .flowMappingStart
    else if c = ']' then lexClosing .flowSequenceEnd
    else if c = '\x7d' then lexClosing .flowMappingEnd
    else if c = ',' then lexComma
    else if c = '-' && endsWord next then lexEntry
    else if c = '?' && (flow || endsWord next) then lexKey
    else if c = ':' && (flow || endsWord next) then lexValue
    else if c = '*' then lexNode (return .alias (← Scan.anchorName))
    else if c = '&' then lexNode (return .anchor (← Scan.anchorName))
    else if c = '!' then lexNode Scan.tagToken
    else if (c = '|' || c = '>') && !flow then lexBlockScalar
    else if c = '\'' || c = '"' then lexNode (return .scalar (← Scan.quoted c) false)
    else if startsPlain flow c next then lexPlain
    else throw .malformed

/-- The tokens that can be taken while the text after them is not read yet. -/
def visible (lexer : Lexer) : List Token :=
  lexer.tokens.toList.take
    (lexer.candidates.foldl (fun least candidate ↦ min least candidate.place) lexer.tokens.size)

/-- Reads tokens to the end or to an error; the fuel bounds their number. -/
def lexFrom : (fuel : Nat) → Lexer → List Token × Option ReadError
  | 0, lexer => (lexer.visible, some .malformed)
  | fuel + 1, lexer =>
    if lexer.finished then (lexer.tokens.toList, none)
    else match dropStale.run lexer with
      | (.error error, _) => (lexer.visible, some error)
      | (.ok _, fresh) =>
        match lexNext.run fresh with
        | (.error error, _) => (fresh.visible, some error)
        | (.ok _, lexer) => lexFrom fuel lexer

end Lexer

/-- The tokens of a document up to its end or up to an error. -/
def Token.ofText (text : List Char) : List Token × Option ReadError :=
  Lexer.lexFrom (text.length + 2) { cursor := { size := text.length, rest := text } }

end ContractAudit.Yaml
