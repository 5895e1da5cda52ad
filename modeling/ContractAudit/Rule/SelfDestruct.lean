import ContractAudit.Analyzer
import ContractAudit.Scope

/-!
# Self-destruction

Finds calls that destroy the contract and looks for a guard in the function around them. A call outside of every
recognised function is judged by the innermost block around it.
-/

namespace ContractAudit.Rule.SelfDestruct

open Text Pattern

def destruction : Pattern :=
  lit "selfdestruct" ++ blanks ++ lit "(" <|> lit "suicide" ++ blanks ++ lit "("

def deprecatedName : Pattern := lit "suicide" ++ blanks ++ lit "("

def ownerGuard : Pattern :=
  lit "onlyOwner" <|> lit "onlyAdmin" <|> lit "require(" ++ blanks ++ lit "msg.sender"
    <|> lit "msg.sender" ++ blanks ++ lit "==" ++ blanks ++ lit "owner"
    <|> lit "owner" ++ blanks ++ lit "==" ++ blanks ++ lit "msg.sender"

/-- The first line of the function or block that is searched for a guard of the call at a column of a line. -/
def guardStart (code : List Line) (index column : Nat) : Nat :=
  match Scope.enclosingFunction? code index with
  | some header =>
    if Scope.blockEnd code header < index then blockStart else header
  | none => blockStart
where
  blockStart : Nat := (Scope.enclosingBlock? code index (some column)).getD index

/-- The text that is searched for a guard of the call at a column of a line. -/
def guardedText (code : List Line) (index column : Nat) : List Char :=
  let start := guardStart code index column
  let stop := max (Scope.blockEnd code start) index
  joinLines ((code.drop start).take (stop + 1 - start))

def byOwner : Advice where
  category := "Self-Destruct Present"
  severity := .medium
  description := "Contract can be destroyed by its owner"
  recommendation :=
    "Consider whether permanent destruction is required; selfdestruct is deprecated since Solidity 0.8.18"

def byAnyone : Advice where
  category := "Unprotected Self-Destruct"
  severity := .critical
  description := "selfdestruct can be called without an owner check"
  recommendation := "Restrict the function with onlyOwner or remove selfdestruct"
  details := .str "Anyone can destroy the contract and send its balance to an arbitrary address"

def deprecated : Advice where
  category := "Deprecated Suicide"
  severity := .low
  description := "suicide() is a deprecated alias of selfdestruct()"
  recommendation := "Replace suicide() with selfdestruct()"

def lineFindings (sheet : Sheet) (entry : Line × Nat) : List Finding :=
  let (line, index) := entry
  match destruction.search? line with
  | none => []
  | some found =>
    let guarded := ownerGuard.occursIn (guardedText sheet.code index (found.offset line))
    (if guarded then byOwner else byAnyone).atLine sheet index
      :: if deprecatedName.occursIn line then [deprecated.atLine sheet index] else []

def findings (sheet : Sheet) : List Finding := sheet.code.zipIdx.flatMap (lineFindings sheet)

def analyzer : Analyzer :=
  .ofRule "SelfDestructAnalyzer" "Self-Destruct Analyzer" [] fun sheet ↦
    .ok { vulnerabilities := findings sheet }

end ContractAudit.Rule.SelfDestruct
