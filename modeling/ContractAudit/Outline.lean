import ContractAudit.Pattern.Vocabulary
import ContractAudit.Text.Lines

/-!
# Outlines

The outline of a contract source: its version, declared names and functions, for the header of a report. It is read
off the text with patterns, comments included, and no rule depends on it.
-/

namespace ContractAudit

structure FunctionOutline where
  name : String
  parameters : String := ""
  visibility : String := "public"
  line : Nat
deriving DecidableEq, Repr

structure Outline where
  language : String
  version : String := "unknown"
  contracts : List String := []
  functions : List FunctionOutline := []
  modifiers : List String := []
  events : List String := []
  imports : List String := []
  /-- The value of each pragma; of a repeated one the last. -/
  pragmas : List (String × String) := []
  /-- The parents of each contract that has some. -/
  inheritance : List (String × List String) := []
  modules : List String := []
  structs : List String := []
deriving DecidableEq, Repr

namespace Outline

open Text Pattern

def firstGroup? (pattern : Pattern) (source : List Char) : Option String :=
  (pattern.search? source).map fun found ↦ String.ofList (found.group 1)

def names (pattern : Pattern) (source : List Char) : List String :=
  (pattern.allGroups 1 source).map String.ofList

/-- Functions whose pattern captures nothing but their name; they are placed where the name stands. -/
def namedFunctions (pattern : Pattern) (source : List Char) : List FunctionOutline :=
  (pattern.allMatches source).map fun found ↦
    { name := String.ofList (found.group 1)
      line := lineNumberAt (found.groupOffset 1 source) source }

/-- Sets the value of a key: a new one comes last, a known one keeps its place. -/
def assign {α : Type} (entries : List (String × α)) (entry : String × α) : List (String × α) :=
  if entries.any (·.1 == entry.1) then entries.map fun old ↦ if old.1 == entry.1 then entry else old
  else entries ++ [entry]

/-- Operators before a version number. -/
def versionOperators : Pattern :=
  run (fun c ↦ c == '^' || c == '~' || c == '>' || c == '=' || c == '<') false

def versionNumber : Pattern := some1 fun c ↦ isDecimalDigit c || c == '.'

end Outline

end ContractAudit
