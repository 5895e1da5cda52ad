import ContractAudit.Outline

/-!
# Outlines of Vyper sources
-/

namespace ContractAudit.Outline.Vyper

open Text Pattern

def version : Pattern :=
  lit "#" ++ blanks ++ (lit "@version" <|> lit "pragma" ++ gap ++ lit "version") ++ gap ++ versionOperators ++ blanks
    ++ capture 1 versionNumber

/-- A function with a visibility decorator, and possibly more decorators. -/
def function : Pattern :=
  lit "@" ++ words ["external", "internal", "public", "private"] ++ gap ++ many (lit "@" ++ word ++ gap) ++ lit "def"
    ++ gap ++ capture 1 word ++ blanks ++ lit "("

def event : Pattern := lit "event" ++ gap ++ capture 1 word ++ blanks ++ lit ":"

def outline (source : List Char) : Outline where
  language := "vyper"
  version := (firstGroup? version source).getD "unknown"
  functions := namedFunctions function source
  events := names event source

end ContractAudit.Outline.Vyper
