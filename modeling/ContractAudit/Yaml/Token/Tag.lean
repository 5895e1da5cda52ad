import ContractAudit.Number.Read
import ContractAudit.Text.Utf8
import ContractAudit.Yaml.Cursor
import ContractAudit.Yaml.Token

/-!
# Names, tags and directives

The tokens that are made of names: anchors and aliases, tags, and the directives before a document.
-/

namespace ContractAudit.Yaml.Scan

def name : ScanM String := do
  let name ← takeWhile isNameCharacter
  require !name.isEmpty
  return String.ofList name

/-- The name of an anchor or alias after its mark. -/
def anchorName : ScanM String := do
  skip 1
  let name ← name
  let next ← peek
  require (endsWord next || next.any "?:,]\x7d%@`".toList.contains)
  return name

/-- The characters that a row of escaped bytes stands for; the fuel bounds their number. -/
def tagEscapes : (fuel : Nat) → ScanM (List UInt8)
  | 0 => return []
  | fuel + 1 => do
    if (← peek) = some '%' then
      skip 1
      let digits := (← get).rest.take 2
      require (digits.length = 2 && digits.all isHexDigit)
      skip 2
      return UInt8.ofNat (hexNumber digits) :: (← tagEscapes fuel)
    else return []

/-- The characters of a tag, with escapes resolved; the fuel bounds their number. -/
def tagCharacters : (fuel : Nat) → ScanM (List Char)
  | 0 => return []
  | fuel + 1 => do
    match ← peek with
    | some '%' =>
      match Text.decodeUtf8 (← tagEscapes (fuel + 1)) with
      | .ok text => return text ++ (← tagCharacters fuel)
      | .error _ => throw .malformed
    | some c =>
      if isTagCharacter c then
        skip 1
        return c :: (← tagCharacters fuel)
      else return []
    | none => return []

def tagText : ScanM String := do
  let text ← tagCharacters ((← get).size + 1)
  require !text.isEmpty
  return String.ofList text

/-- A handle: an exclamation mark, or a name between two. -/
def tagHandle : ScanM String := do
  require ((← peek) = some '!')
  skip 1
  if (← peek) = some ' ' then return "!"
  else
    let name ← takeWhile isNameCharacter
    require ((← peek) = some '!')
    skip 1
    return "!" ++ String.ofList name ++ "!"

/-- Whether another exclamation mark comes before the next space or line break. -/
def holdsHandle (rest : List Char) : Bool := (rest.takeWhile fun c ↦ !endsItem (some c)).contains '!'

def tagToken : ScanM Token := do
  let token ← match (← get).peekAt 1 with
    | some '<' => do
      skip 2
      let text ← tagText
      require ((← peek) = some '>')
      skip 1
      pure (Token.tag none text)
    | next =>
      if endsWord next then do
        skip 1
        pure (Token.tag none "!")
      else if holdsHandle ((← get).rest.drop 1) then do
        let handle ← tagHandle
        pure (Token.tag (some handle) (← tagText))
      else do
        skip 1
        pure (Token.tag (some "!") (← tagText))
  require (endsItem (← peek))
  return token

def versionNumber : ScanM Nat := do
  let digits ← takeWhile Char.isDigit
  require !digits.isEmpty
  if Number.digitLimit < digits.length then throw .noSuchValue
  return Text.numeral digits

def directive : ScanM Directive := do
  skip 1
  let name ← name
  require (endsItem (← peek))
  let directive ← match name with
    | "YAML" => do
      skipSpaces
      let major ← versionNumber
      require ((← peek) = some '.')
      skip 1
      let _ ← versionNumber
      require (endsItem (← peek))
      pure (Directive.version major)
    | "TAG" => do
      skipSpaces
      let handle ← tagHandle
      require ((← peek) = some ' ')
      skipSpaces
      let start ← tagText
      require (endsItem (← peek))
      pure (Directive.handle handle start)
    | _ => do
      let _ ← takeWhile (!isBreak ·)
      pure Directive.other
  restOfLine
  return directive

end ContractAudit.Yaml.Scan
