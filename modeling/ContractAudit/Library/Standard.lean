import ContractAudit.Console.Markup
import ContractAudit.Console.Table
import ContractAudit.Text.Utf8
import ContractAudit.Yaml.Reader
import ContractAudit.Yaml.Writer

/-!
# The libraries that the program is run with

A library for YAML documents, and a console without colours. They are one choice among others, made where the program is
put together, and no statement about the program is about them.
-/

namespace ContractAudit

namespace Yaml

def ReadError.kind : ReadError → String
  | malformed => "malformed"
  | unknownTag _ => "unknown tag"
  | noSuchValue => "no such value"
  | tooLarge => "too large"
  | unknownWord => "unknown word"
  | emptyNumber => "empty number"
  | notTime => "not a time"
  | notText => "not a text"
  | tooDeep => "too deep"

/-- What reading a file comes to. Only a text that breaks a rule of the language, or has a tag without meaning, is
refused. -/
def ReadError.fault (name : String) : ReadError → ReadFault
  | malformed => .refused ("the document is not well formed in \"" ++ name ++ "\"")
  | unknownTag tag =>
    .refused ("could not determine a constructor for the tag " ++ (Value.str tag).quoted ++ "\n  in \"" ++ name ++ "\"")
  | error => .unexpected ⟨error.kind⟩

/-- How deeply collections may be nested in a document that is written. -/
def depthLimit : Nat := 330

def library : DocumentLibrary where
  read file :=
    match Text.decodeUtf8 file.bytes with
    | .error _ => .error .undecodable
    | .ok text => (read (String.ofList (Text.unifyLines text))).mapError (ReadError.fault file.name)
  write value :=
    if depthLimit < value.depth then .error ⟨ReadError.tooDeep.kind⟩
    else if value.isWritable then .ok (write value)
    else .error ⟨ReadError.noSuchValue.kind⟩

end Yaml

def Markup.Fault.kind : Markup.Fault → String
  | tag => "unmatched tag"
  | color => "no such value"

namespace Console

def plain (text : String) : Except LibraryError String := (Markup.plain text).mapError fun fault ↦ ⟨fault.kind⟩

def colourless : Console where
  print text := do return (wrap consoleWidth true (← plain text).toList).map String.ofList
  printTable table := do
    let rows ← table.rows.mapM fun row ↦ row.mapM plain
    return ({ table with rows } : Table).lines.map String.ofList
  printPanel title texts := (panel title texts).map String.ofList

end Console

def Libraries.standard : Libraries where
  documents := Yaml.library
  console := Console.colourless

end ContractAudit
