import ContractAudit.Analyzer
import ContractAudit.Pattern.Vocabulary
import ContractAudit.Window

/-!
# Unchecked calls

Low-level calls return a flag instead of reverting. This rule flags the ones whose flag is not looked at, and external
calls outside of a try statement.
-/

namespace ContractAudit.Rule.UncheckedCall

open Text Pattern

def lowLevelCall : Pattern := lit ".call" ++ blanks ++ oneOf "(\x7b"

def sendCall : Pattern := lit ".send" ++ blanks ++ lit "("

def delegateCall : Pattern := lit ".delegatecall" ++ blanks ++ oneOf "(\x7b"

def sameLineCheck : Pattern :=
  lit "require" ++ blanks ++ lit "(" <|> lit "if" ++ blanks ++ lit "("
    <|> lit "(" ++ blanks ++ lit "bool" ++ gap ++ word

def successCheck : Pattern :=
  lit "require" ++ blanks ++ lit "(" ++ anything ++ lit "success"
    <|> lit "if" ++ blanks ++ lit "(" ++ anything ++ lit "success"
    <|> lit "assert" ++ blanks ++ lit "(" ++ anything ++ lit "success"

def delegateCheck : Pattern :=
  lit "require" ++ blanks ++ lit "(" <|> lit "(" ++ blanks ++ lit "bool" ++ edge

def memberCall : Pattern := word ++ lit "(" ++ anything ++ lit ")." ++ word ++ lit "("

def tryStatement : Pattern := edge ++ lit "try" ++ gap

def uncheckedCall : Advice where
  category := "Unchecked Call"
  severity := .high
  description := "Low-level call return value not checked"
  recommendation := "Always check return value: (bool success, ) = addr.call(...); require(success);"

def uncheckedSend : Advice where
  category := "Unchecked Send"
  severity := .medium
  description := "send() return value not checked"
  recommendation := "Use transfer() or check send() return value"

def uncheckedDelegateCall : Advice where
  category := "Unchecked Delegatecall"
  severity := .critical
  description := "delegatecall return value not checked"
  recommendation := "Always check delegatecall success and validate target"

def unhandledCall : Advice where
  category := "External Call Without Error Handling"
  severity := .low
  description := "External contract call without try-catch"
  recommendation := "Consider using try-catch for external calls"

/-- How many lines are searched, after a call for a check and before one for a try statement. -/
structure Windows where
  lookahead : Value := .int 2
  lookback : Value := .int 2

/-- Whether the flag of a call is looked at, on its line or in the window after it. -/
def isChecked (lookahead : Value) (lines : List Line) (line : Line) (index : Nat) : Except Fault Bool := do
  if sameLineCheck.occursIn line then return true
  return (← Window.after lookahead 1 lines index).any successCheck.occursIn

def insideTry (lookback : Value) (lines : List Line) (index : Nat) : Except Fault Bool :=
  return (← Window.before lookback lines index).any tryStatement.occursIn

/-- The advice, if the line has the pattern and the excuse does not hold. -/
def reportUnless (advice : Advice) (pattern : Pattern) (excused : Except Fault Bool) (sheet : Sheet)
    (entry : Line × Nat) : Except Fault (List Finding) := do
  if !pattern.occursIn entry.1 then return []
  if ← excused then return []
  return [advice.atLine sheet entry.2]

def judgeLine (windows : Windows) (sheet : Sheet) (entry : Line × Nat) : Except Fault (List Finding) := do
  let (line, index) := entry
  let checked := isChecked windows.lookahead sheet.code line index
  let calls ← reportUnless uncheckedCall lowLevelCall checked sheet entry
  let sends ← reportUnless uncheckedSend sendCall checked sheet entry
  let delegates ←
    reportUnless uncheckedDelegateCall delegateCall (.ok (delegateCheck.occursIn line)) sheet entry
  let members ← reportUnless unhandledCall memberCall (insideTry windows.lookback sheet.code index) sheet entry
  return calls ++ sends ++ delegates ++ members

def judge (windows : Windows) : Rule := fun sheet ↦ do
  let perLine ← sheet.code.zipIdx.mapM (judgeLine windows sheet)
  pure { vulnerabilities := perLine.flatten }

def analyzer (windows : Windows) : Analyzer :=
  .ofRule "UncheckedCallAnalyzer" "Unchecked Call Analyzer"
    [("lookahead", windows.lookahead), ("lookback", windows.lookback)] (judge windows)

end ContractAudit.Rule.UncheckedCall
