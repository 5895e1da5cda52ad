import ContractAudit.Analyzer
import ContractAudit.Pattern.Vocabulary

/-!
# Reentrancy

Flags external calls that are textually followed by writes to state, and contracts that move value without any guard
against reentrancy.
-/

namespace ContractAudit.Rule.Reentrancy

open Text Pattern

/-- Ways to hand control to another contract. The dot keeps `msg.sender` apart from a call of `send`. -/
def externalCalls : List Pattern :=
  [lit ".call" ++ blanks ++ oneOf "(\x7b",
   lit ".transfer" ++ blanks ++ lit "(",
   lit ".send" ++ blanks ++ lit "(",
   lit ".delegatecall" ++ blanks ++ oneOf "(\x7b"]

/-- An assignment, possibly compound; comparisons and the arrows of mappings are none. -/
def assignment : Pattern :=
  edge ++ word ++ many (blanks ++ lit "[" ++ noneOf "]" ++ lit "]") ++ many (lit "." ++ word)
    ++ blanks ++ maybe (oneOf "+-*/%") ++ lit "=" ++ notBefore "=>"

/-- Declarations of locals and the head of a loop, whose assignments do not reach state. -/
def localDeclaration : Pattern :=
  atStart ++ blanks
      ++ (maybe (lit "u") ++ lit "int" ++ digits <|> lit "bool" <|> lit "address" <|> lit "bytes" ++ digits
        <|> lit "string")
      ++ edge
    <|> edge ++ words ["memory", "calldata"] ++ edge
    <|> atStart ++ blanks ++ lit "for" ++ blanks ++ lit "("

def valueTransfer : Pattern :=
  lit ".call" ++ blanks ++ lit "\x7b" ++ blanks ++ lit "value" ++ blanks ++ lit ":"
    <|> edge ++ lit "payable" ++ edge

def guards : List Pattern :=
  [lit "nonReentrant", lit "noReentrancy", lit "ReentrancyGuard", lit "reentrancyGuard"]

def isExternalCall (line : Line) : Bool := anyOccursIn externalCalls line

def isStateWrite (line : Line) : Bool := assignment.occursIn line && !localDeclaration.occursIn line

/-- For each line, whether a line strictly after it writes state; and whether any of the lines does. -/
def writesAfter : List Line → List Bool × Bool
  | [] => ([], false)
  | line :: rest =>
    let (flags, seen) := writesAfter rest
    (seen :: flags, seen || isStateWrite line)

def callBeforeWrite : Advice where
  category := "Reentrancy"
  severity := .high
  description := "External call detected before state change"
  recommendation := "Move state changes before external calls (Checks-Effects-Interactions pattern)"

def noGuard : Advice where
  category := "Reentrancy"
  severity := .medium
  description := "Contract handles value transfers without reentrancy guard"
  recommendation := "Consider using OpenZeppelin ReentrancyGuard"

def unguarded (code : List Char) : Bool := valueTransfer.occursIn code && !anyOccursIn guards code

/-- The indexes of external calls that a write to state follows. -/
def exposedCalls (code : List Line) : List Nat :=
  ((code.zip (writesAfter code).1).zipIdx.filter fun ((line, later), _) ↦ later && isExternalCall line).map (·.2)

def findings (sheet : Sheet) : List Finding :=
  (exposedCalls sheet.code).map (callBeforeWrite.atLine sheet)
    ++ if unguarded sheet.text then [noGuard.overall] else []

def analyzer : Analyzer :=
  .ofRule "ReentrancyAnalyzer" "Reentrancy Analyzer" [] fun sheet ↦
    .ok { vulnerabilities := findings sheet }

end ContractAudit.Rule.Reentrancy
