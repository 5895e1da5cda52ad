import ContractAudit.Analyzer
import ContractAudit.Pattern.Vocabulary
import ContractAudit.Window

/-!
# Access control

Flags administrative functions without a guard near their header, contracts with administrative functions and no guard
at all, and authorization by the originator of the transaction. Keywords count whatever their case.
-/

namespace ContractAudit.Rule.AccessControl

open Text Pattern

def adminFunctions : List Pattern :=
  [anyCase "function" ++ gap ++ wordsAnyCase ["set", "update", "change"] ++ word,
   anyCase "function" ++ gap
     ++ wordsAnyCase ["configure", "initialize", "pause", "unpause", "withdraw", "destroy", "kill"]]

def senderIs (role : String) : Pattern :=
  anyCase "require(" ++ blanks ++ anyCase "msg.sender" ++ blanks ++ lit "==" ++ blanks ++ anyCase role

def guards : List Pattern :=
  [anyCase "onlyOwner", anyCase "onlyAdmin", senderIs "owner", senderIs "admin",
   anyCase "modifier" ++ gap ++ anyCase "only" ++ word]

def functionName : Pattern := anyCase "function" ++ gap ++ capture 1 word

def originator : Pattern := lit "tx.origin"

def isAdminFunction (text : List Char) : Bool := anyOccursIn adminFunctions text

def hasGuard (text : List Char) : Bool := anyOccursIn guards text

/-- The name after the first function keyword of a line. -/
def nameOn (line : Line) : String :=
  String.ofList (((functionName.search? line).map (·.group 1)).getD [])

def unguardedFunction (name : String) : Advice where
  category := "Access Control"
  severity := .medium
  description := "Administrative function '" ++ name ++ "' lacks access control"
  recommendation := "Add onlyOwner or appropriate access control modifier"
  location := .str ("function " ++ name)

def originatorUsed : Advice where
  category := "Access Control"
  severity := .medium
  description := "Use of tx.origin for authorization"
  recommendation := "Use msg.sender instead of tx.origin"

def noMechanism : Advice where
  category := "Access Control"
  severity := .high
  description := "Contract has administrative functions but no access control mechanism"
  recommendation := "Implement Ownable or AccessControl pattern from OpenZeppelin"

/-- How many lines from a function header on are searched for a guard, unless set otherwise. -/
def defaultLookahead : Value := .int 10

/-- The finding for one line, if it heads an administrative function without a guard in its window. -/
def judgeLine (lookahead : Value) (sheet : Sheet) (entry : Line × Nat) : Except Fault (Option Finding) := do
  let (line, index) := entry
  if !isAdminFunction line then return none
  let window ← Window.after lookahead 0 sheet.code index
  if window.any hasGuard then return none
  return some ((unguardedFunction (nameOn line)).atLine sheet index)

def overall (code : List Char) : List Finding :=
  (if originator.occursIn code then [originatorUsed.overall] else [])
    ++ if isAdminFunction code && !hasGuard code then [noMechanism.overall] else []

def judge (lookahead : Value) : Rule := fun sheet ↦ do
  let perLine ← sheet.code.zipIdx.mapM (judgeLine lookahead sheet)
  pure { vulnerabilities := perLine.reduceOption ++ overall sheet.text }

def analyzer (lookahead : Value) : Analyzer :=
  .ofRule "AccessControlAnalyzer" "Access Control Analyzer" [("lookahead", lookahead)] (judge lookahead)

end ContractAudit.Rule.AccessControl
