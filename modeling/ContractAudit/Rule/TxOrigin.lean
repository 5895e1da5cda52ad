import ContractAudit.Analyzer
import ContractAudit.Pattern.Vocabulary

/-!
# Authorization by originator

The originator of a transaction is the account that started it, so a check of it lets any contract that the owner
calls act as the owner.
-/

namespace ContractAudit.Rule.TxOrigin

open Text Pattern

def originator : Pattern := lit "tx.origin"

def authorization : Pattern :=
  lit "require" ++ blanks ++ lit "(" ++ anything ++ lit "tx.origin"
    <|> lit "if" ++ blanks ++ lit "(" ++ anything ++ lit "tx.origin"
    <|> lit "tx.origin" ++ blanks ++ oneOf "!=" ++ lit "="

def authentication : Advice where
  category := "tx.origin Authentication"
  severity := .high
  description := "tx.origin used for authorization"
  recommendation := "Use msg.sender instead of tx.origin for authorization"
  details := .str "A malicious contract called by the owner can pass a tx.origin check"

def usage : Advice where
  category := "tx.origin Usage"
  severity := .low
  description := "tx.origin referenced"
  recommendation := "Prefer msg.sender unless the transaction originator is explicitly required"

def lineFindings (sheet : Sheet) (entry : Line × Nat) : List Finding :=
  let (line, index) := entry
  if !originator.occursIn line then []
  else if authorization.occursIn line then [authentication.atLine sheet index]
  else [usage.atLine sheet index]

def findings (sheet : Sheet) : List Finding := sheet.code.zipIdx.flatMap (lineFindings sheet)

def analyzer : Analyzer :=
  .ofRule "TxOriginAnalyzer" "tx.origin Analyzer" [] fun sheet ↦ .ok { vulnerabilities := findings sheet }

end ContractAudit.Rule.TxOrigin
