import ContractAudit.Outline
import ContractAudit.Text.Blank

/-!
# Outlines of Solidity sources
-/

namespace ContractAudit.Outline.Solidity

open Text Pattern

def version : Pattern :=
  lit "pragma" ++ gap ++ lit "solidity" ++ gap ++ versionOperators ++ blanks ++ capture 1 versionNumber

/-- A contract, interface or library up to its opening brace, with its name and its parents. -/
def contract : Pattern :=
  edge ++ maybe (lit "abstract" ++ gap) ++ words ["contract", "interface", "library"] ++ gap ++ capture 1 word
    ++ maybe (gap ++ lit "is" ++ gap
      ++ capture 2 (one isParentCharacter ++ run isParentCharacter true))
    ++ blanks ++ lit "\x7b"
where
  isParentCharacter (c : Char) : Bool := isWordCharacter c || c == ',' || isBlank c

/-- A function with its name, its parameters and the visibility that follows them. -/
def function : Pattern :=
  lit "function" ++ gap ++ capture 1 word ++ blanks ++ lit "(" ++ capture 2 (noneOf ")") ++ lit ")" ++ blanks
    ++ capture 3 (maybe (words ["public", "private", "internal", "external"]))

def modifier : Pattern := lit "modifier" ++ gap ++ capture 1 word

def event : Pattern := lit "event" ++ gap ++ capture 1 word ++ blanks ++ lit "("

def struct : Pattern := edge ++ lit "struct" ++ gap ++ capture 1 word

def path : Pattern :=
  lit "\"" ++ capture 1 (some1 (· != '"')) ++ lit "\"" <|> lit "'" ++ capture 1 (some1 (· != '\'')) ++ lit "'"

def importLine : Pattern :=
  lit "import" ++ gap
    ++ (path <|> lit "\x7b" ++ some1 (· != '\x7d') ++ lit "\x7d" ++ gap ++ lit "from" ++ gap ++ path)

def pragma : Pattern :=
  lit "pragma" ++ gap ++ capture 1 word ++ gap ++ capture 2 (run (· != '\n') true) ++ lit ";"

def splitCommas : List Char → List (List Char)
  | [] => [[]]
  | c :: rest =>
    match splitCommas rest with
    | [] => [[c]]
    | part :: parts => if c = ',' then [] :: part :: parts else (c :: part) :: parts

def parents (text : List Char) : List String :=
  (((splitCommas text).map trim).filter (!·.isEmpty)).map String.ofList

def inheritance (declarations : List Match) : List (String × List String) :=
  declarations.foldl (fun entries found ↦
    match found.group 2 with
    | [] => entries
    | text => assign entries (String.ofList (found.group 1), parents text)) []

def functionOutline (source : List Char) (found : Match) : FunctionOutline where
  name := String.ofList (found.group 1)
  parameters := String.ofList (trim (found.group 2))
  visibility := match found.group 3 with
    | [] => "public"
    | visibility => String.ofList visibility
  line := lineNumberAt (found.offset source) source

def outline (source : List Char) : Outline :=
  let declarations := contract.allMatches source
  { language := "solidity"
    version := (firstGroup? version source).getD "unknown"
    contracts := declarations.map fun found ↦ String.ofList (found.group 1)
    functions := (function.allMatches source).map (functionOutline source)
    modifiers := names modifier source
    events := names event source
    imports := names importLine source
    pragmas := (pragma.allMatches source).foldl (fun entries found ↦
      assign entries (String.ofList (found.group 1), String.ofList (trim (found.group 2)))) []
    inheritance := inheritance declarations
    structs := names struct source }

end ContractAudit.Outline.Solidity
