/-!
# Characters of YAML documents

Which characters a document may hold, and the classes of them that separate words and lines. A text ends like a line
does, so the classes at the borders of words and lines are told for the next character, if there is one.
-/

namespace ContractAudit.Yaml

/-- The mark of byte order, which takes no column. -/
def byteOrderMark : Char := Char.ofNat 0xFEFF

/-- Whether a document may hold a character. -/
def isPermitted (c : Char) : Bool :=
  c = '\t' || c = '\n' || c = '\r' || (' ' ≤ c && c ≤ '~') || c = '\x85'
    || (0xA0 ≤ c.toNat && c.toNat ≤ 0xFFFD) || 0x10000 ≤ c.toNat

def isBreak (c : Char) : Bool := c = '\n' || c = '\x85' || c.toNat = 0x2028 || c.toNat = 0x2029

def isWhite (c : Char) : Bool := c = ' ' || c = '\t'

/-- Whether a line ends before the next character. -/
def endsLine : Option Char → Bool
  | some c => isBreak c
  | none => true

/-- Whether a word ends before the next character. -/
def endsWord (next : Option Char) : Bool := endsLine next || next.any isWhite

/-- Whether a line ends before the next character, or a space follows. -/
def endsItem (next : Option Char) : Bool := endsLine next || next = some ' '

/-- Characters of the names of anchors, directives and handles. -/
def isNameCharacter (c : Char) : Bool := c.isAlphanum || c = '-' || c = '_'

def isTagCharacter (c : Char) : Bool := c.isAlphanum || "-;/?:@&=+$,_.!~*'()[]%".toList.contains c

def isHexDigit (c : Char) : Bool := c.isDigit || ('a' ≤ c && c ≤ 'f') || ('A' ≤ c && c ≤ 'F')

def hexValue (c : Char) : Nat :=
  if c.isDigit then c.toNat - 48 else if 'a' ≤ c then c.toNat - 87 else c.toNat - 55

def hexNumber (digits : List Char) : Nat := digits.foldl (fun n c ↦ 16 * n + hexValue c) 0

/-- What a line break stands for in a text: the two separators of other scripts stay themselves. -/
def breakText (c : Char) : Char := if c = '\x85' then '\n' else c

end ContractAudit.Yaml
