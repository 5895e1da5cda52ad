import ContractAudit.Analyzer
import ContractAudit.Scope

/-!
# Gas

Ways to save gas. Nothing that this rule reports is a vulnerability: everything is an issue, in the order of the lines.
-/

namespace ContractAudit.Rule.Gas

open Text Pattern

/-! ## Patterns -/

def lengthInLoop : Pattern := lit "for" ++ blanks ++ lit "(" ++ anything ++ lit ".length"

def stringComparison : Pattern :=
  lit "==" ++ anything ++ lit "string" <|> lit "string" ++ anything ++ lit "=="

def hashCall : Pattern := lit "keccak256"

def mapIndexWrite : Pattern := word ++ lit "[" ++ word ++ lit "]" ++ blanks ++ lit "=" ++ notBefore "="

def loopHeader : Pattern := edge ++ words ["for", "while"] ++ blanks ++ lit "("

def storageAccess : Pattern :=
  lit "storage" ++ gap ++ word <|> lit ".slot" ++ edge <|> lit ".offset" ++ edge

def sizedInteger : Pattern := maybe (lit "u") ++ lit "int" ++ digits

def addressType : Pattern := lit "address" ++ maybe (gap ++ lit "payable")

def stateVariable : Pattern :=
  atStart ++ blanks
    ++ (lit "mapping" ++ blanks ++ lit "(" ++ anything ++ lit ")" <|> sizedInteger <|> addressType <|> lit "bool"
      <|> lit "bytes" ++ digits <|> lit "string")
    ++ maybe (blanks ++ lit "[" ++ blanks ++ digits ++ blanks ++ lit "]")
    ++ many (gap ++ words ["public", "private", "internal"])
    ++ gap ++ capture 1 word ++ blanks ++ maybe (lit "=" ++ noneOf ";") ++ lit ";"

def fixedKeyword : Pattern := edge ++ words ["constant", "immutable"] ++ edge

def localVariable : Pattern :=
  atStart ++ blanks
    ++ (sizedInteger <|> addressType <|> lit "bool" <|> lit "bytes" ++ digits <|> lit "string")
    ++ maybe (blanks ++ lit "[" ++ blanks ++ lit "]")
    ++ maybe (gap ++ words ["memory", "storage", "calldata"])
    ++ gap ++ capture 1 word ++ blanks ++ oneOf "=;"

def wholeWord : Pattern := edge ++ word ++ edge

def narrowInteger : Pattern := edge ++ maybe (lit "u") ++ lit "int" ++ words ["8", "16", "32"] ++ edge

def structHeader : Pattern := edge ++ lit "struct" ++ gap ++ word

def publicFunction : Pattern :=
  lit "function" ++ gap ++ capture 1 word ++ blanks ++ lit "(" ++ noneOf ")" ++ lit ")"
    ++ noneOf "\x7b;" ++ edge ++ lit "public" ++ edge

def callSite : Pattern := edge ++ capture 1 word ++ blanks ++ lit "("

def publicVariable : Pattern :=
  atStart ++ blanks ++ (sizedInteger <|> lit "address" <|> lit "bool" <|> lit "bytes32") ++ gap ++ lit "public"
    ++ gap ++ capture 1 word ++ blanks ++ lit ";"

def constructorHeader : Pattern := edge ++ lit "constructor" ++ blanks ++ lit "("

def assignmentTo (name : List Char) : Pattern :=
  edge ++ lit (String.ofList name) ++ blanks ++ maybe (oneOf "+-*/") ++ lit "=" ++ notBefore "="

def anyName (names : List (List Char)) : Pattern :=
  edge ++ words (names.map String.ofList) ++ edge

/-! ## Lines, depths and words -/

/-- The brace depth at the start of each line. -/
def depths (code : List Line) : List Int :=
  (code.foldl (fun (depth, sofar) line ↦ (depth + Scope.depthChange line, depth :: sofar)) ((0 : Int), [])).2.reverse

/-- The variables declared directly in a contract, constants and immutables apart. -/
def stateVariables (code : List Line) : List (List Char) :=
  (code.zip (depths code)).filterMap fun (line, depth) ↦
    if depth = 1 ∧ ¬ fixedKeyword.occursIn line then (stateVariable.matchStart? line).map (·.group 1) else none

def wordsOf (line : Line) : List (List Char) :=
  (wholeWord.allMatches line).map fun found ↦ found.start.take found.length

/-- For every word the index of the last line with it. The lines are passed in order, and the newest entry counts. -/
def lastSeen (code : List Line) : List (List Char × Nat) :=
  code.zipIdx.foldl (fun seen (line, index) ↦ (wordsOf line).foldl (fun seen word ↦ (word, index) :: seen) seen) []

/-- The indexes of the lines of all blocks whose header has a pattern. -/
def blockLines (header : Pattern) (sheet : Sheet) : List Nat :=
  (sheet.code.zipIdx.filter fun (line, _) ↦ header.occursIn line).flatMap fun (_, index) ↦
    List.range' index (Scope.blockEnd sheet.raw index + 1 - index)

/-! ## Advice -/

def unboundedLoop : Advice where
  category := "Unbounded Loop"
  severity := .medium
  description := "Loop bound reads a dynamic array length on every iteration"
  recommendation := "Cache the array length in a local variable and bound the loop size"
  savings := .str "~100 gas per iteration"

def comparedStrings : Advice where
  category := "String Comparison"
  severity := .low
  description := "Direct string comparison"
  recommendation := "Compare keccak256(abi.encodePacked(a)) == keccak256(abi.encodePacked(b))"
  savings := .str "~500 gas"

def severalWrites : Advice where
  category := "Multiple Storage Writes"
  severity := .medium
  description := "Several storage writes on one line"
  recommendation := "Batch the updates in memory and write storage once"
  savings := .str "~5000 gas per avoided write"

def storageReadInLoop : Advice where
  category := "Storage Read in Loop"
  severity := .medium
  description := "State variable accessed inside a loop body"
  recommendation := "Cache storage values in memory before the loop"
  savings := .str "~2100 gas per iteration"

def unusedVariable (name : String) : Advice where
  category := "Unused Variable"
  severity := .low
  description := "Local variable '" ++ name ++ "' is declared but never used"
  recommendation := "Remove the unused variable"
  savings := .str "~200 gas"

def inefficientType : Advice where
  category := "Inefficient Type"
  severity := .low
  description := "Integer narrower than 256 bits used outside a packed struct"
  recommendation := "Use uint256 unless the value is packed with its neighbours"
  savings := .str "~20 gas per operation"

def neverCalled (name : String) : Advice where
  category := "Function Visibility"
  severity := .low
  description := "Public function '" ++ name ++ "' is never called internally"
  recommendation := "Declare the function external"
  savings := .str "~100 gas per call"

def setOnlyOnce (name : String) : Advice where
  category := "State Variable"
  severity := .low
  description := "State variable '" ++ name ++ "' is only set in the constructor"
  recommendation := "Declare it immutable"
  savings := .str "~2100 gas per read"

/-- The most writes through an index on one line that need no batching. -/
def maxWritesPerLine : Nat := 2

/-! ## Passes -/

/-- Reports advice at every line that calls for it. -/
def reportLines (sheet : Sheet) (advise : Line → Nat → Option Advice) : List Finding :=
  sheet.code.zipIdx.filterMap fun (line, index) ↦ (advise line index).map (·.atLine sheet index)

def singleLines (sheet : Sheet) : List Finding :=
  sheet.code.zipIdx.flatMap fun (line, index) ↦
    ((if lengthInLoop.occursIn line then [unboundedLoop] else [])
      ++ (if stringComparison.occursIn line && !hashCall.occursIn line then [comparedStrings] else [])
      ++ if (mapIndexWrite.allMatches line).length > maxWritesPerLine then [severalWrites] else []).map
        (·.atLine sheet index)

/-- Whether a line reads storage, given the state variables. -/
def readsStorage (names : List (List Char)) (line : Line) : Bool :=
  storageAccess.occursIn line || (!names.isEmpty && (anyName names).occursIn line)

def storageReadsInLoops (sheet : Sheet) : List Finding :=
  let names := stateVariables sheet.code
  reportLines sheet fun line index ↦
    let body := (sheet.code.drop (index + 1)).take (Scope.blockEnd sheet.raw index - index)
    if loopHeader.occursIn line && body.any (readsStorage names) then some storageReadInLoop else none

def unusedVariables (sheet : Sheet) : List Finding :=
  let seen := lastSeen sheet.code
  let lineDepths := depths sheet.code
  reportLines sheet fun line index ↦ do
    if lineDepths.getD index 0 < 2 then none
    let name := (← localVariable.matchStart? line).group 1
    if seen.lookup name = some index ∧ ((anyName [name]).allMatches line).length = 1 then
      some (unusedVariable (String.ofList name))
    else none

def inefficientTypes (sheet : Sheet) : List Finding :=
  let inStruct := blockLines structHeader sheet
  reportLines sheet fun line index ↦
    if inStruct.contains index || (lit "packed").occursIn line then none
    else if narrowInteger.occursIn line then some inefficientType else none

def externalCandidates (sheet : Sheet) : List Finding :=
  let calls := callSite.allGroups 1 sheet.text
  reportLines sheet fun line _ ↦ do
    let name := (← publicFunction.search? line).group 1
    if calls.count name ≤ 1 then some (neverCalled (String.ofList name)) else none

def immutableCandidates (sheet : Sheet) : List Finding :=
  let constructorLines := blockLines constructorHeader sheet
  reportLines sheet fun line _ ↦ do
    let name := (← publicVariable.matchStart? line).group 1
    match sheet.code.zipIdx.filter (fun (other, _) ↦ (assignmentTo name).occursIn other) with
    | [(_, index)] => if constructorLines.contains index then some (setOnlyOnce (String.ofList name)) else none
    | _ => none

/-- The line of an issue, for sorting. -/
def lineOf (finding : Finding) : Nat := (finding.line.map Subtype.val).getD 0

/-- All issues in the order of their lines; issues on one line keep the order of the passes. -/
def issues (sheet : Sheet) : List Finding :=
  (singleLines sheet ++ storageReadsInLoops sheet ++ unusedVariables sheet ++ inefficientTypes sheet
    ++ externalCandidates sheet ++ immutableCandidates sheet).mergeSort fun first second ↦
      lineOf first ≤ lineOf second

def analyzer : Analyzer :=
  .ofRule "GasAnalyzer" "Gas Optimizer" [] fun sheet ↦ .ok { issues := issues sheet }

end ContractAudit.Rule.Gas
