import ContractAudit.Pattern
import ContractAudit.Text.Blank
import ContractAudit.Text.Digit
import ContractAudit.Text.WordCharacter

/-!
# Vocabulary of the source patterns

The building blocks from which the rules and the outlines write their patterns.
-/

namespace ContractAudit.Pattern

open Text

/-- The given characters, one after the other. -/
def lit (text : String) : Pattern := text.toList.foldr (fun c rest ↦ one (· == c) ++ rest) empty

/-- Characters that differ from an ASCII letter in case only. Three small letters have such companions outside ASCII. -/
def sameLetter (letter c : Char) : Bool :=
  c.toLower == letter.toLower
    || (letter.toLower == 'i' && (c.toNat == 0x131 || c.toNat == 0x130))
    || (letter.toLower == 's' && c.toNat == 0x17F)
    || (letter.toLower == 'k' && c.toNat == 0x212A)

/-- The given characters in upper or lower case. -/
def anyCase (text : String) : Pattern := text.toList.foldr (fun c rest ↦ one (sameLetter c) ++ rest) empty

def oneOf (characters : String) : Pattern := one characters.toList.contains

/-- Characters other than the given ones, any number of them. -/
def noneOf (characters : String) : Pattern := run (fun c ↦ !characters.toList.contains c) false

/-- A class of characters, at least one of them. -/
def some1 (accepts : Char → Bool) : Pattern := one accepts ++ run accepts false

/-- Blanks, possibly none. -/
def blanks : Pattern := run isBlank false

/-- At least one blank. -/
def gap : Pattern := some1 isBlank

/-- A word or the end of one. -/
def word : Pattern := some1 isWordCharacter

def digits : Pattern := run isDecimalDigit false

/-- Anything up to the end of the line. -/
def anything : Pattern := run (· != '\n') false

def maybe (pattern : Pattern) : Pattern := pattern <|> empty

/-- One of several patterns, earlier ones preferred. -/
def choice : List Pattern → Pattern
  | [] => between fun _ _ ↦ false
  | [pattern] => pattern
  | pattern :: next :: rest => pattern <|> choice (next :: rest)

/-- One of several texts, earlier ones preferred. -/
def words (texts : List String) : Pattern := choice (texts.map lit)

/-- One of several texts in upper or lower case, earlier ones preferred. -/
def wordsAnyCase (texts : List String) : Pattern := choice (texts.map anyCase)

/-- A place between a word character and something else. -/
def edge : Pattern :=
  between fun before after ↦ before.any isWordCharacter != after.any isWordCharacter

/-- The start of the text. -/
def atStart : Pattern := between fun before _ ↦ before.isNone

/-- A place that none of the given characters follows. -/
def notBefore (characters : String) : Pattern :=
  between fun _ after ↦ !after.any characters.toList.contains

end ContractAudit.Pattern
