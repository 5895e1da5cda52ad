import ContractAudit.Value

/-!
# Writing JSON

Objects are written with their keys in order, so that equal values have equal texts. The compact layout has no blanks
at all; the indented one starts every item on a line of its own.
-/

namespace ContractAudit.Json

inductive Layout where
  | compact
  | indented
deriving DecidableEq, Repr

def escapeCharacter (c : Char) : List Char :=
  if c = '"' then ['\\', '"']
  else if c = '\\' then ['\\', '\\']
  else if c = '\n' then ['\\', 'n']
  else if c = '\r' then ['\\', 'r']
  else if c = '\t' then ['\\', 't']
  else if c = '\x0c' then ['\\', 'f']
  else if c = '\x08' then ['\\', 'b']
  else if c.toNat < 32 then '\\' :: 'u' :: Text.hex 4 c.toNat
  else [c]

def writeString (text : List Char) : List Char := '"' :: (text.flatMap escapeCharacter ++ ['"'])

/-- The text of a key: keys that are no texts are written as their values. -/
def keyText : Value → String
  | .str s => s
  | .null => "null"
  | .bool true => "true"
  | .bool false => "false"
  | .float x => Number.writeFloat .json x
  | other => other.text

def lineBreak (level : Nat) : List Char := '\n' :: List.replicate (2 * level) ' '

/-- Texts between brackets; an empty list of them has no line breaks inside. -/
def enclose (layout : Layout) (level : Nat) (left right : Char) (items : List (List Char)) : List Char :=
  let separated : List Char → List (List Char) → List Char := fun separator items ↦
    items.foldr (fun item rest ↦ separator ++ item ++ rest) []
  match items with
  | [] => [left, right]
  | item :: rest =>
    match layout with
    | .compact => left :: (item ++ separated [','] rest ++ [right])
    | .indented =>
      let inner := lineBreak (level + 1)
      left :: (inner ++ item ++ separated (',' :: inner) rest ++ lineBreak level ++ [right])

def sortEntries (entries : List (String × List Char)) : List (String × List Char) :=
  entries.mergeSort fun first second ↦ !decide (second.1 < first.1)

def writeEntry (layout : Layout) (entry : String × List Char) : List Char :=
  let separator := match layout with
    | .compact => [':']
    | .indented => [':', ' ']
  writeString entry.1.toList ++ separator ++ entry.2

mutual

def writeValue (layout : Layout) (level : Nat) : Value → List Char
  | .null => "null".toList
  | .bool true => "true".toList
  | .bool false => "false".toList
  | .int n => Number.writeInt n
  | .float x => (Number.writeFloat .json x).toList
  | .str s => writeString s.toList
  | .list items => enclose layout level '[' ']' (writeItems layout (level + 1) items)
  | .map entries =>
    enclose layout level '\x7b' '\x7d'
      ((sortEntries (writeEntries layout (level + 1) entries)).map (writeEntry layout))
  | .tuple items => enclose layout level '[' ']' (writeItems layout (level + 1) items)
  | .set members => enclose layout level '[' ']' (writeItems layout (level + 1) members)
  | other => writeString other.text.toList

def writeItems (layout : Layout) (level : Nat) : List Value → List (List Char)
  | [] => []
  | item :: rest => writeValue layout level item :: writeItems layout level rest

def writeEntries (layout : Layout) (level : Nat) : List (Value × Value) → List (String × List Char)
  | [] => []
  | (key, item) :: rest => (keyText key, writeValue layout level item) :: writeEntries layout level rest

end

def write (layout : Layout) (value : Value) : String := String.ofList (writeValue layout 0 value)

end ContractAudit.Json
