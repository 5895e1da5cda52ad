import ContractAudit.Calendar
import ContractAudit.Text.Quoted

/-!
# Untyped values

Answers of a language model, settings files and hand-made findings carry values whose type nobody has checked. This
module has one type for them, the words for their types, when they count as present, and how they are written in
messages. Mappings keep the order in which their keys came. A collection may contain itself; inside it, it is then
referred to by the number of collections between.
-/

namespace ContractAudit

inductive Value where
  | null
  | bool (b : Bool)
  | int (n : Int)
  | float (x : Float)
  | str (s : String)
  | list (items : List Value)
  | map (entries : List (Value × Value))
  | date (day : Date)
  | moment (point : Moment)
  | bytes (content : List UInt8)
  | tuple (items : List Value)
  | set (members : List Value)
  /-- The collection around this value, or around `level` more collections, and whether it is a mapping. -/
  | enclosing (level : Nat) (isMap : Bool)
deriving Inhabited

namespace Value

instance : Coe String Value := ⟨str⟩

def typeName : Value → String
  | null => "NoneType"
  | bool _ => "bool"
  | int _ => "int"
  | float _ => "float"
  | str _ => "str"
  | list _ => "list"
  | map _ => "dict"
  | date _ => "datetime.date"
  | moment _ => "datetime.datetime"
  | bytes _ => "bytes"
  | tuple _ => "tuple"
  | set _ => "set"
  | enclosing _ isMap => if isMap then "dict" else "list"

/-- Whether a value counts as present: zero, false, null and everything empty do not. -/
def truthy : Value → Bool
  | null => false
  | bool b => b
  | int n => n != 0
  | float x => x != 0
  | str s => !s.isEmpty
  | list items => !items.isEmpty
  | map entries => !entries.isEmpty
  | date _ => true
  | moment _ => true
  | bytes content => !content.isEmpty
  | tuple items => !items.isEmpty
  | set members => !members.isEmpty
  | enclosing _ _ => true

/-- Items between brackets, with a comma and a space between every two. -/
def commaSeparated : List (List Char) → List Char
  | [] => []
  | [item] => item
  | item :: next :: rest => item ++ ',' :: ' ' :: commaSeparated (next :: rest)

/-- Numbers between parentheses, after the name of what they describe. -/
def shownCall (name : String) (arguments : List (List Char)) : List Char :=
  name.toList ++ '(' :: (commaSeparated arguments ++ [')'])

def shownNat (n : Nat) : List Char := Nat.toDigits 10 n

def shownDate (day : Date) : List Char :=
  shownCall "datetime.date" [shownNat day.year, shownNat day.month, shownNat day.day]

/-- The offset of clocks as whole days and the seconds that are left. -/
def shownAhead (minutes : Int) : List Char :=
  if minutes = 0 then "tzinfo=datetime.timezone.utc".toList
  else
    let seconds := "seconds=".toList ++ Number.writeInt (minutes * 60 % 86400)
    let parts := if minutes < 0 then ["days=-1".toList, seconds] else [seconds]
    "tzinfo=".toList ++ shownCall "datetime.timezone" [shownCall "datetime.timedelta" parts]

/-- The numbers of a point in time; seconds and microseconds are left out when nothing but zeros is left. -/
def shownMoment (point : Moment) : List Char :=
  let fine := if point.microsecond != 0 then [shownNat point.second, shownNat point.microsecond]
    else if point.second != 0 then [shownNat point.second] else []
  shownCall "datetime.datetime"
    ([shownNat point.date.year, shownNat point.date.month, shownNat point.date.day, shownNat point.hour,
      shownNat point.minute] ++ fine ++ (point.ahead.map shownAhead).toList)

/-- Bytes between quotes like a text, with the letter b in front; what is not ASCII is escaped. -/
def shownBytes (content : List UInt8) : List Char :=
  let text := content.map fun byte ↦ Char.ofNat byte.toNat
  let quote := if text.contains '\'' && !text.contains '"' then '"' else '\''
  let character (c : Char) : List Char :=
    if c.toNat < 127 then Text.quoteCharacter quote c else '\\' :: 'x' :: Text.hex 2 c.toNat
  'b' :: quote :: (text.flatMap character ++ [quote])

mutual

/-- A value as it stands inside another value: texts are quoted. -/
def shown : Value → List Char
  | null => "None".toList
  | bool true => "True".toList
  | bool false => "False".toList
  | int n => Number.writeInt n
  | float x => (Number.writeFloat .plain x).toList
  | str s => Text.quoted s.toList
  | list items => '[' :: (commaSeparated (shownItems items) ++ [']'])
  | map entries => '\x7b' :: (commaSeparated (shownEntries entries) ++ ['\x7d'])
  | date day => shownDate day
  | moment point => shownMoment point
  | bytes content => shownBytes content
  | tuple [item] => '(' :: (shown item ++ [',', ')'])
  | tuple items => '(' :: (commaSeparated (shownItems items) ++ [')'])
  | set [] => "set()".toList
  | set members => '\x7b' :: (commaSeparated (shownItems members) ++ ['\x7d'])
  | enclosing _ isMap => if isMap then "\x7b...\x7d".toList else "[...]".toList

def shownItems : List Value → List (List Char)
  | [] => []
  | item :: rest => shown item :: shownItems rest

def shownEntries : List (Value × Value) → List (List Char)
  | [] => []
  | (key, item) :: rest => (shown key ++ ':' :: ' ' :: shown item) :: shownEntries rest

end

def quoted (value : Value) : String := String.ofList value.shown

/-- The value as text: a text is itself, dates and points in time are written with hyphens and colons, all else is
shown. -/
def text : Value → String
  | str s => s
  | date day => String.ofList day.text
  | moment point => String.ofList point.text
  | other => other.quoted

/-- The integer that a value is; the truth values count as one and zero. -/
def integer? : Value → Option Int
  | int n => some n
  | bool b => some (if b then 1 else 0)
  | _ => none

/-- Whether two values are the same key of a mapping: numbers are compared by value, whatever their type. -/
def sameKey : Value → Value → Bool
  | str s, str t => s == t
  | null, null => true
  | date day, date other => day == other
  | moment point, moment other => point.same other
  | bytes content, bytes other => content == other
  | float x, float y => x == y
  | float x, other => other.integer?.any (Number.isInteger x)
  | other, float x => other.integer?.any (Number.isInteger x)
  | left, right => match left.integer?, right.integer? with
    | some n, some m => n == m
    | _, _ => false

/-- Lists, mappings and sets cannot be keys. -/
def hashable : Value → Bool
  | list _ | map _ | set _ | enclosing _ _ => false
  | _ => true

/-- The value of a text key among entries. -/
def field? (entries : List (Value × Value)) (key : String) : Option Value :=
  (entries.find? fun entry ↦ entry.1.sameKey (.str key)).map (·.2)

/-- The value of a text key, with null for a missing one. -/
def field (entries : List (Value × Value)) (key : String) : Value := (field? entries key).getD .null

/-! ## Values that contain themselves -/

mutual

/-- The value with `whole` in place of every reference to the collection around `level` more collections. -/
def unfold (whole : Value) (level : Nat) : Value → Value
  | list items => list (unfoldItems whole (level + 1) items)
  | map entries => map (unfoldEntries whole (level + 1) entries)
  | tuple items => tuple (unfoldItems whole (level + 1) items)
  | enclosing up isMap => if up = level then whole else enclosing up isMap
  | other => other

def unfoldItems (whole : Value) (level : Nat) : List Value → List Value
  | [] => []
  | item :: rest => unfold whole level item :: unfoldItems whole level rest

def unfoldEntries (whole : Value) (level : Nat) : List (Value × Value) → List (Value × Value)
  | [] => []
  | (key, item) :: rest => (key, unfold whole level item) :: unfoldEntries whole level rest

end

/-- The entries of a mapping as values of their own: where they refer to the mapping, it stands in them. -/
def entries : Value → List (Value × Value)
  | map entries => unfoldEntries (map entries) 0 entries
  | _ => []

mutual

/-- Whether a value contains itself, or something in it does. -/
def isCyclic : Value → Bool
  | list items => cyclicItems items
  | map entries => cyclicEntries entries
  | tuple items => cyclicItems items
  | enclosing _ _ => true
  | _ => false

def cyclicItems : List Value → Bool
  | [] => false
  | item :: rest => isCyclic item || cyclicItems rest

def cyclicEntries : List (Value × Value) → Bool
  | [] => false
  | (_, item) :: rest => isCyclic item || cyclicEntries rest

end

mutual

/-- How many collections are nested in a value, the value included. -/
def depth : Value → Nat
  | list items => itemsDepth items + 1
  | map entries => entriesDepth entries + 1
  | tuple items => itemsDepth items + 1
  | set _ => 1
  | _ => 0

def itemsDepth : List Value → Nat
  | [] => 0
  | item :: rest => max (depth item) (itemsDepth rest)

def entriesDepth : List (Value × Value) → Nat
  | [] => 0
  | (_, item) :: rest => max (depth item) (entriesDepth rest)

end

/-! ## Integers that are too long to be written -/

mutual

/-- Whether a value can be written: all integers in it keep to the limit. -/
def isWritable : Value → Bool
  | int n => n.natAbs < Nat.pow 10 Number.digitLimit
  | list items => writableItems items
  | map entries => writableEntries entries
  | tuple items => writableItems items
  | set members => writableItems members
  | _ => true

def writableItems : List Value → Bool
  | [] => true
  | item :: rest => isWritable item && writableItems rest

def writableEntries : List (Value × Value) → Bool
  | [] => true
  | (key, item) :: rest => isWritable key && isWritable item && writableEntries rest

end

end Value

end ContractAudit
