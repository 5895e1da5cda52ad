import ContractAudit.Pattern.Vocabulary

/-!
# Spellings of plain scalars

A YAML scalar without quotes stands for a number, a truth value, null or a point in time when it is spelled like one,
and for its own text otherwise. A line break at the end of a text does not change its spelling.
-/

namespace ContractAudit.Yaml

open Pattern

inductive Spelling where
  | null
  | bool
  | int
  | float
  | time
  /-- The mark that merges another mapping into this one. -/
  | merge
  /-- The mark for the default value of a mapping. -/
  | standIn
  /-- A mark of the language itself. -/
  | reserved
  | text
deriving DecidableEq, Repr

/-- Whether a pattern takes a whole text, or all of it but a line break at its end. -/
def takesAll (pattern : Pattern) (text : List Char) : Bool :=
  (pattern.ends ⟨none, text, []⟩).any fun place ↦ place.rest.isEmpty || place.rest == ['\n']

def isBinaryDigit (c : Char) : Bool := c = '0' || c = '1' || c = '_'

def isOctalDigit (c : Char) : Bool := ('0' ≤ c && c ≤ '7') || c = '_'

def isDigitOrGap (c : Char) : Bool := c.isDigit || c = '_'

def isHexDigitOrGap (c : Char) : Bool :=
  c.isDigit || ('a' ≤ c && c ≤ 'f') || ('A' ≤ c && c ≤ 'F') || c = '_'

def digit : Pattern := one Char.isDigit

def sign : Pattern := maybe (oneOf "-+")

/-- Sexagesimal places after the first, each after a colon. -/
def places : Pattern :=
  let place := lit ":" ++ maybe (one fun c ↦ '0' ≤ c && c ≤ '5') ++ digit
  place ++ many place

def nullSpelling : Pattern := words ["~", "null", "Null", "NULL"]

def boolSpelling : Pattern :=
  words ["yes", "Yes", "YES", "no", "No", "NO", "true", "True", "TRUE", "false", "False", "FALSE", "on", "On", "ON",
    "off", "Off", "OFF"]

def intSpelling : Pattern :=
  sign ++ choice
    [lit "0b" ++ some1 isBinaryDigit,
     lit "0" ++ some1 isOctalDigit,
     lit "0",
     one (fun c ↦ '1' ≤ c && c ≤ '9') ++ run isDigitOrGap false ++ maybe places,
     lit "0x" ++ some1 isHexDigitOrGap]

def floatSpelling : Pattern :=
  let power := maybe (oneOf "eE" ++ oneOf "-+" ++ some1 Char.isDigit)
  choice
    [sign ++ digit ++ run isDigitOrGap false ++ lit "." ++ run isDigitOrGap false ++ power,
     lit "." ++ digit ++ run isDigitOrGap false ++ power,
     sign ++ digit ++ run isDigitOrGap false ++ places ++ lit "." ++ run isDigitOrGap false,
     sign ++ lit "." ++ words ["inf", "Inf", "INF"],
     lit "." ++ words ["nan", "NaN", "NAN"]]

def timeSpelling : Pattern :=
  let pair := digit ++ digit
  let short := digit ++ maybe digit
  let gaps := run (fun c ↦ c = ' ' || c = '\t') false
  let year := pair ++ pair
  choice
    [year ++ lit "-" ++ pair ++ lit "-" ++ pair,
     year ++ lit "-" ++ short ++ lit "-" ++ short ++ choice [oneOf "Tt", oneOf " \t" ++ gaps]
       ++ short ++ lit ":" ++ pair ++ lit ":" ++ pair ++ maybe (lit "." ++ run Char.isDigit false)
       ++ maybe (gaps ++ choice [lit "Z", oneOf "-+" ++ short ++ maybe (lit ":" ++ pair)])]

def spelling (text : List Char) : Spelling :=
  if text.isEmpty || takesAll nullSpelling text then .null
  else if takesAll boolSpelling text then .bool
  else if takesAll floatSpelling text then .float
  else if takesAll intSpelling text then .int
  else if takesAll timeSpelling text then .time
  else if takesAll (lit "<<") text then .merge
  else if takesAll (lit "=") text then .standIn
  else if takesAll (oneOf "!&*") text then .reserved
  else .text

end ContractAudit.Yaml
