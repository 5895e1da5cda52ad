import ContractAudit.Console.Literal
import ContractAudit.Console.Pictograph
import ContractAudit.Console.Style

/-!
# Styled text

Texts for the console carry tags in square brackets that open and close styles, and names of pictographs between colons.
A console without colours shows such a text without its tags. A tag starts with a small letter, a number sign, a slash
or an at sign; other brackets are text, and so is a tag after an odd number of backslashes. A tag that closes a style
which is not open is an error; two descriptions of one style close each other. A tag with an at sign names an action,
and its arguments have to be literals.
-/

namespace ContractAudit.Markup

inductive Fault where
  /-- A tag closes nothing, or the arguments of an action are no literals. -/
  | tag
  /-- A part of a colour is no number. -/
  | color
deriving DecidableEq, Repr

/-! ## Pieces of a text -/

def startsTag (c : Char) : Bool := ('a' ≤ c && c ≤ 'z') || c = '#' || c = '/' || c = '@'

/-- The tag at the start of a text, and the text after it. -/
def tagAt? : List Char → Option (List Char × List Char)
  | '[' :: c :: rest =>
    let inside := rest.takeWhile fun c ↦ c != '[' && c != ']'
    match rest.drop inside.length with
    | ']' :: after => if startsTag c then some (c :: inside, after) else none
    | _ => none
  | _ => none

inductive Piece where
  | text (characters : List Char)
  | tag (characters : List Char)

/-- The pieces of what is left of a text; `before` are the characters since the last tag, the last one first. Of the
backslashes in front of a tag, every two stand for one, and an odd one makes the tag text. -/
def piecesFrom : (fuel : Nat) → (before : List Char) → List Char → List Piece
  | 0, before, _ => [.text before.reverse]
  | _ + 1, before, [] => [.text before.reverse]
  | fuel + 1, before, c :: rest =>
    let text := c :: rest
    let slashes := (text.takeWhile (· = '\\')).length
    match tagAt? (text.drop slashes) with
    | some (tag, next) =>
      let piece := if slashes % 2 = 1 then .text ('[' :: (tag ++ [']'])) else .tag tag
      .text before.reverse :: .text (List.replicate (slashes / 2) '\\') :: piece :: piecesFrom fuel [] next
    | none => piecesFrom fuel (c :: before) rest

def pieces (text : List Char) : List Piece := piecesFrom (text.length + 1) [] text

/-! ## Text between tags -/

def unescape : List Char → List Char
  | '\\' :: '[' :: rest => '[' :: unescape rest
  | c :: rest => c :: unescape rest
  | [] => []

/-- The endings of names that ask for a pictograph in text or in colour, with the character that asks for it. -/
def variants : List (List Char × Char) :=
  [("-emoji".toList, Char.ofNat 0xFE0F), ("-text".toList, Char.ofNat 0xFE0E)]

/-- The pictograph for what stands between two colons. -/
def pictograph? (name : List Char) : Option (List Char) :=
  let lookUp (name : List Char) : Option (List Char) :=
    (Console.pictograph? (Text.lower (String.ofList name))).map String.toList
  match variants.find? (·.1.isSuffixOf name) with
  | some (ending, variant) => (lookUp (name.take (name.length - ending.length))).map (· ++ [variant])
  | none => lookUp name

/-- Puts pictographs in place of their names; the fuel bounds the number of characters. -/
def depict : (fuel : Nat) → List Char → List Char
  | 0, text => text
  | _ + 1, [] => []
  | fuel + 1, c :: rest =>
    let name := rest.takeWhile fun c ↦ c != ':' && !Text.isBlank c
    match c, rest.drop name.length with
    | ':', ':' :: after => (pictograph? name).getD (':' :: (name ++ [':'])) ++ depict fuel after
    | c, _ => c :: depict fuel rest

/-- Characters that a console leaves out: the bell and those that move the cursor. -/
def isLeftOut (c : Char) : Bool := c = '\x07' || c = '\x08' || c = '\x0b' || c = '\x0c' || c = '\r'

def shown (text : List Char) : List Char :=
  (depict (text.length + 1) (unescape text)).filter (!isLeftOut ·)

/-! ## Tags -/

/-- A style that is open: its normal form and what follows an equals sign in its tag. -/
structure Opened where
  name : String
  arguments : Option (List Char)
deriving DecidableEq

/-- The description of the style with its arguments. -/
def Opened.description (opened : Opened) : String :=
  match opened.arguments with
  | some arguments => opened.name ++ " " ++ String.ofList arguments
  | none => opened.name

structure State where
  /-- The styles that are open, the last one first. -/
  stack : List Opened := []
  /-- The descriptions of styles to show. -/
  used : List String := []

def normalize (name : List Char) : Except Fault String :=
  (Console.Style.normalize (String.ofList name)).mapError fun _ ↦ .color

/-- The arguments of an action in parentheses, after its name; an action without parentheses has none. -/
def actionArguments (text : List Char) : List Char :=
  let rest := text.dropWhile fun c ↦ Text.isWordCharacter c || c = '.'
  if rest.isEmpty then "()".toList
  else if rest.head? = some '(' && 2 ≤ rest.length && rest.getLast? = some ')' && !rest.contains '\n' then rest
  else text

def close (state : State) (opened : Opened) : Except Fault State :=
  let stack := state.stack.erase opened
  if opened.name.startsWith "@" then
    match opened.arguments with
    | some (c :: rest) =>
      if Console.Literal.isLiteral (actionArguments (Text.trim (c :: rest))) then .ok { state with stack }
      else .error .tag
    | _ => .ok { state with stack }
  else .ok ⟨stack, opened.description :: state.used⟩

def applyTag (state : State) (tag : List Char) : Except Fault State := do
  let name := tag.takeWhile (· != '=')
  let arguments := if name.length < tag.length then some (tag.drop (name.length + 1)) else none
  match name with
  | '/' :: closed =>
    let closed := Text.trim closed
    let opened ← if closed.isEmpty then pure state.stack.head?
      else do
        let closed ← normalize closed
        pure (state.stack.find? (·.name = closed))
    match opened with
    | some opened => close state opened
    | none => throw .tag
  | name => return { state with stack := ⟨← normalize name, arguments⟩ :: state.stack }

/-- Shows pieces, given what the tags before them left. -/
def showFrom : State → List Piece → Except Fault (List Char × State)
  | state, [] => .ok ([], state)
  | state, .text text :: rest => do
    let (after, state) ← showFrom state rest
    return (shown text ++ after, state)
  | state, .tag tag :: rest => do showFrom (← applyTag state tag) rest

def isBroken (description : String) : Bool :=
  match Console.Style.ofDescription description with
  | .error .notNumber => true
  | _ => false

/-- The text without its tags, as it is shown. -/
def plain (text : String) : Except Fault String := do
  let (characters, state) ← showFrom {} (pieces text.toList)
  if (state.used ++ state.stack.map Opened.description).any isBroken then throw .color
  return String.ofList characters

end ContractAudit.Markup
