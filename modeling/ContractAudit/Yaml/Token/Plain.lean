import ContractAudit.Yaml.Token.Quoted

/-!
# Plain scalars

A scalar without quotes ends before a colon or a number sign that stands by itself, inside brackets also before a comma
or bracket, and outside of them before a line that is not indented deep enough.
-/

namespace ContractAudit.Yaml.Scan

structure PlainContext where
  /-- Whether it stands inside brackets. -/
  flow : Bool
  /-- The column that its lines have to reach outside of brackets. -/
  indent : Nat

def isFlowIndicator (c : Char) : Bool := c = ',' || c = '[' || c = ']' || c = '\x7b' || c = '\x7d'

/-- Whether a colon before the next character ends a plain scalar. -/
def colonEnds (flow : Bool) (next : Option Char) : Bool := endsWord next || (flow && next.any isFlowIndicator)

def plainWord (flow : Bool) : List Char → List Char
  | [] => []
  | c :: rest =>
    if isWhite c || isBreak c then []
    else if (c = ':' && colonEnds flow rest.head?) || (flow && (isFlowIndicator c || c = '?')) then []
    else c :: plainWord flow rest

/-- Line breaks and spaces before the next line of a plain scalar; none when a mark between documents comes first. -/
def plainBreaks : (fuel : Nat) → ScanM (Option (List Char))
  | 0 => return some []
  | fuel + 1 => do
    if (← get).atSomeDocumentMark then return none
    skipSpaces
    match ← lineBreak with
    | some c => return (← plainBreaks fuel).map (c :: ·)
    | none => return some []

/-- What stands between two words of a plain scalar, and whether a line ended there; none when the scalar ends. -/
def plainGap : ScanM (Option (List Char) × Bool) := do
  let spaces ← takeWhile (· = ' ')
  match ← lineBreak with
  | some c => return ((← plainBreaks ((← get).size + 1)).map (folded c), true)
  | none => return (if spaces.isEmpty then none else some spaces, false)

/-- The words of a plain scalar, and whether a line ended after the last of them. -/
def plainWords (context : PlainContext) : (fuel : Nat) → (gap : List Char) → (lineEnded : Bool) →
    ScanM (List Char × Bool)
  | 0, _, lineEnded => return ([], lineEnded)
  | fuel + 1, gap, lineEnded => do
    let cursor ← get
    let word := if cursor.peek = some '#' then [] else plainWord context.flow cursor.rest
    if word.isEmpty then return ([], lineEnded)
    skip word.length
    let (next, lineEnded) ← plainGap
    let cursor ← get
    match next with
    | none => return (gap ++ word, lineEnded)
    | some next =>
      if cursor.peek = some '#' || (!context.flow && cursor.column < context.indent) then
        return (gap ++ word, lineEnded)
      let (more, lineEnded) ← plainWords context fuel next lineEnded
      return (gap ++ word ++ more, lineEnded)

/-- The plain scalar that starts here, and whether its last line ended. -/
def plain (context : PlainContext) : ScanM (String × Bool) := do
  let (text, lineEnded) ← plainWords context ((← get).size + 1) [] false
  return (String.ofList text, lineEnded)

end ContractAudit.Yaml.Scan
