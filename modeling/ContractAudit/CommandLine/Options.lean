import ContractAudit.Text.Digit

/-!
# Options on a command line

A command line is a list of words. Words that start with a dash name options, in full, by an unambiguous beginning, or
by a letter; the value of an option is the next word or is attached to its name. The other words are operands, and so
is every word after a double dash. This module tells the words apart and collects what they say.
-/

namespace ContractAudit.CommandLine

/-- Why reading a command line ended before its end. -/
inductive Stop where
  /-- The words make no sense. -/
  | misuse
  | help
  | version
deriving DecidableEq, Repr

inductive Effect where
  | help
  | version
  /-- Notes that it was given. -/
  | mark
  /-- Takes a value, one of the given choices; without choices, any. -/
  | value (choices : List String)
deriving DecidableEq, Repr

structure Switch where
  /-- The name under which the option is kept. -/
  key : String
  names : List String
  effect : Effect
deriving DecidableEq, Repr

inductive Named where
  /-- No option has this name. -/
  | unknown
  /-- Named by a word, possibly with a value after an equals sign. -/
  | word (switch : Switch) (value : Option String)
  /-- Named by a letter, with the text that follows the letter. -/
  | letter (switch : Switch) (rest : List Char)
deriving DecidableEq, Repr

inductive Word where
  | operand
  | separator
  | option (named : Named)
deriving DecidableEq, Repr

/-- A word and what it is. -/
abbrev Sorted := String × Word

/-! ## Telling words apart -/

def isShort (name : String) : Bool := name.toList[1]? != some '-'

def switchNamed? (switches : List Switch) (name : String) : Option Switch :=
  switches.find? (·.names.contains name)

def splitAtEquals (text : List Char) : List Char × Option (List Char) :=
  match text.dropWhile (· != '=') with
  | _ :: value => (text.takeWhile (· != '='), some value)
  | [] => (text, none)

/-- The options that a word could name by a beginning of their name, or by a letter with a text after it. -/
def candidates (switches : List Switch) (text : List Char) : List Named :=
  let names := switches.flatMap fun switch ↦ switch.names.map (switch, ·)
  if text[1]? = some '-' then
    let (beginning, value) := splitAtEquals text
    (names.filter fun entry ↦ beginning.isPrefixOf entry.2.toList).map fun entry ↦
      .word entry.1 (value.map String.ofList)
  else
    (names.filter fun entry ↦ entry.2.toList == text.take 2).map fun entry ↦ .letter entry.1 (text.drop 2)

/-- Whether a word is a negative number, possibly with a line break after it. -/
def isNegativeNumber : List Char → Bool
  | '-' :: rest =>
    let number := if rest.getLast? = some '\n' then rest.dropLast else rest
    let fraction := (number.dropWhile Text.isDecimalDigit).drop 1
    (!number.isEmpty && number.all Text.isDecimalDigit)
      || ((number.dropWhile Text.isDecimalDigit).head? = some '.' && !fraction.isEmpty
        && fraction.all Text.isDecimalDigit)
  | _ => false

/-- An option under its full name, with the text after an equals sign. -/
def namedInFull (name : String) (switch : Switch) (value : Option (List Char)) : Named :=
  if isShort name then .letter switch ((value.map ('=' :: ·)).getD []) else .word switch (value.map String.ofList)

/-- What a word is, unless it could name several options. -/
def sortWord (switches : List Switch) (text : String) : Except Stop Word :=
  let characters := text.toList
  let (name, value) := splitAtEquals characters
  if characters.head? != some '-' then .ok .operand
  else if let some switch := switchNamed? switches text then .ok (.option (namedInFull text switch none))
  else if characters.length = 1 then .ok .operand
  else if let (some switch, some _) := (switchNamed? switches (String.ofList name), value) then
    .ok (.option (namedInFull text switch value))
  else match candidates switches characters with
    | [named] => .ok (.option named)
    | _ :: _ => .error .misuse
    | [] => if isNegativeNumber characters || characters.contains ' ' then .ok .operand else .ok (.option .unknown)

/-- Sorts words; after the first separator every word is an operand. -/
def sortWords (switches : List Switch) : List String → Except Stop (List Sorted)
  | [] => .ok []
  | "--" :: rest => .ok (("--", .separator) :: rest.map (·, .operand))
  | text :: rest => do
    let word ← sortWord switches text
    let words ← sortWords switches rest
    pure ((text, word) :: words)

/-! ## Collecting -/

/-- An option that waits for its value. -/
structure Waiting where
  switch : Switch
  /-- The options named before it by the same word, which take effect once it has its value. -/
  before : List Switch := []

/-- What the words said so far. -/
structure Given where
  /-- The values of options, the last one first. -/
  values : List (String × String) := []
  marks : List String := []
  operand : Option String := none
  /-- Whether the word before was the operand. -/
  afterOperand : Bool := false
  /-- Whether there was a word that nothing takes. -/
  surplus : Bool := false
  waiting : Option Waiting := none

def Given.value? (given : Given) (key : String) : Option String := given.values.lookup key

def Given.take (given : Given) (switch : Switch) (value : String) : Except Stop Given :=
  match switch.effect with
  | .value choices =>
    if choices.isEmpty || choices.contains value then
      .ok { given with values := (switch.key, value) :: given.values, waiting := none }
    else .error .misuse
  | _ => .error .misuse

def Given.apply (given : Given) (switch : Switch) : Except Stop Given :=
  match switch.effect with
  | .help => .error .help
  | .version => .error .version
  | .mark => .ok { given with marks := switch.key :: given.marks }
  | .value _ => .error .misuse

def Given.supply (given : Given) (waiting : Waiting) (value : String) : Except Stop Given := do
  (← waiting.before.foldlM Given.apply given).take waiting.switch value

structure Spelled where
  /-- Options without values. -/
  before : List Switch := []
  /-- The last option, when it takes a value, and the value attached to it. -/
  last : Option (Switch × Option String) := none
  /-- Whether there is a letter that names no option; it is left over, together with what follows it. -/
  surplus : Bool := false

def Switch.takesValue (switch : Switch) : Bool := switch.effect matches .value _

/-- Reads the text that follows the letter of an option. The value of an option is the rest of the word, without an
equals sign at its start; an option without a value may be followed by the letters of more options. -/
def spelled (switches : List Switch) (switch : Switch) : List Char → Except Stop Spelled
  | [] => .ok (if switch.takesValue then { last := some (switch, none) } else { before := [switch] })
  | next :: rest =>
    if switch.takesValue then
      .ok { last := some (switch, some (String.ofList (if next = '=' then rest else next :: rest))) }
    else if next = '=' || next = '-' then .error .misuse
    else match switchNamed? switches (String.ofList ['-', next]) with
      | some other => do
        let others ← spelled switches other rest
        pure { others with before := switch :: others.before }
      | none => .ok { before := [switch], surplus := true }

/-- What a word that names an option stands for. -/
def Named.spelled (switches : List Switch) : Named → Except Stop Spelled
  | unknown => .ok { surplus := true }
  | word switch none => CommandLine.spelled switches switch []
  | word switch (some value) => if switch.takesValue then .ok { last := some (switch, some value) } else .error .misuse
  | letter switch rest => CommandLine.spelled switches switch rest

/-- Applies what one word names. -/
def Given.option (given : Given) (switches : List Switch) (named : Named) : Except Stop Given := do
  let spelled ← named.spelled switches
  let given := { given with afterOperand := false, surplus := given.surplus || spelled.surplus }
  match spelled.last with
  | some (switch, none) => pure { given with waiting := some { switch, before := spelled.before } }
  | some (switch, some value) => given.supply { switch, before := spelled.before } value
  | none => spelled.before.foldlM Given.apply given

/-- What the words have said after one more word. -/
def Given.next (switches : List Switch) (given : Given) (sorted : Sorted) : Except Stop Given :=
  match given.waiting, sorted.2 with
  | some waiting, .operand => given.supply waiting sorted.1
  | some _, _ => .error .misuse
  | none, .option named => given.option switches named
  | none, .operand =>
    if given.operand.isSome then .ok { given with surplus := true, afterOperand := false }
    else .ok { given with operand := some sorted.1, afterOperand := true }
  | none, .separator =>
    if given.operand.isSome && !given.afterOperand then .ok { given with surplus := true } else .ok given

/-- Reads words with at most one operand among them. -/
def collect (switches : List Switch) (words : List String) : Except Stop Given := do
  let given ← (← sortWords switches words).foldlM (Given.next switches) {}
  if given.waiting.isSome || given.surplus then throw .misuse
  pure given

/-- Reads options up to the first operand or separator, which starts the rest. -/
def collectLeading (switches : List Switch) : Given → List Sorted → Except Stop (Given × List String)
  | given, [] => if given.waiting.isSome || given.surplus then .error .misuse else .ok (given, [])
  | given, sorted :: rest =>
    match given.waiting, sorted.2 with
    | none, .option named => do collectLeading switches (← given.option switches named) rest
    | some waiting, .operand => do collectLeading switches (← given.supply waiting sorted.1) rest
    | some _, _ => .error .misuse
    | none, _ => .ok (given, (sorted :: rest).map (·.1))

end ContractAudit.CommandLine
