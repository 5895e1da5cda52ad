import ContractAudit.Analyzer
import ContractAudit.Pattern.Vocabulary

/-!
# Timestamp dependence

Miners can move the timestamp of a block by a few seconds. A condition on it is harmless for coarse deadlines and
exploitable where it feeds randomness, so the severity depends on the context.
-/

namespace ContractAudit.Rule.Timestamp

open Text Pattern

def timestamp : Pattern := lit "block.timestamp" <|> edge ++ lit "now" ++ edge

def comparison : Pattern := oneOf "<>" ++ maybe (lit "=") <|> lit "==" <|> lit "!="

def condition : Pattern :=
  words ["if", "require"] ++ blanks ++ lit "(" ++ anything ++ timestamp
    <|> timestamp ++ blanks ++ comparison
    <|> comparison ++ blanks ++ timestamp

def randomness : Pattern :=
  anyCase "random" <|> edge ++ anyCase "rand" ++ edge <|> anyCase "lottery" <|> anyCase "winner"

def deadline : Pattern := wordsAnyCase ["deadline", "expir", "auction", "timeout"]

def blockNumber : Pattern := lit "block.number"

def timeSpan : Pattern := wordsAnyCase ["expir", "deadline", "timeout", "duration"]

def randomDraw : Advice where
  category := "Timestamp Dependence"
  severity := .high
  description := "Block timestamp used in a contract that derives randomness or picks winners"
  recommendation :=
    "Use a verifiable randomness source (e.g. a VRF oracle) instead of block.timestamp"

def deadlineCondition : Advice where
  category := "Timestamp Dependence"
  severity := .medium
  description := "Block timestamp used for a deadline or auction condition"
  recommendation :=
    "Allow a tolerance of at least 15 seconds or use block numbers for critical timing"

def plainCondition : Advice where
  category := "Timestamp Dependence"
  severity := .low
  description := "Block timestamp used in a conditional"
  recommendation := "Ensure the logic tolerates small timestamp manipulation by miners"

def blockNumberAsTime : Advice where
  category := "Block Number as Time"
  severity := .low
  description := "block.number used to measure time"
  recommendation := "Block times vary; use block.timestamp for time measurements"

def conditionAdvice (random : Bool) (line : Line) : Advice :=
  if random then randomDraw else if deadline.occursIn line then deadlineCondition else plainCondition

def lineFindings (random : Bool) (sheet : Sheet) (entry : Line × Nat) : List Finding :=
  let (line, index) := entry
  (if timestamp.occursIn line && condition.occursIn line then
      [(conditionAdvice random line).atLine sheet index] else [])
    ++ if blockNumber.occursIn line && timeSpan.occursIn line then
      [blockNumberAsTime.atLine sheet index] else []

def findings (sheet : Sheet) : List Finding :=
  sheet.code.zipIdx.flatMap (lineFindings (randomness.occursIn sheet.text) sheet)

def analyzer : Analyzer :=
  .ofRule "TimestampAnalyzer" "Timestamp Dependence Analyzer" [] fun sheet ↦
    .ok { vulnerabilities := findings sheet }

end ContractAudit.Rule.Timestamp
