import ContractAudit.Outline.Rust
import ContractAudit.Outline.Solidity
import ContractAudit.Outline.Vyper
import ContractAudit.Registry

/-!
# Metadata

The summary of an outline that goes into a report.
-/

namespace ContractAudit

namespace Outline

/-- The outline of a source. A language without an outline of its own is read as Solidity. -/
def ofSource (source : List Char) (language : String) : Outline :=
  match languageOr language with
  | "vyper" => Vyper.outline source
  | "rust" => Rust.outline source
  | _ => Solidity.outline source

end Outline

structure Metadata where
  language : String
  version : String := "unknown"
  contracts : List String := []
  functions : List String := []
  modifiers : List String := []
  events : List String := []
  imports : List String := []
  inheritance : List (String × List String) := []
  /-- The name of the contract, empty when it has none. -/
  name : String := ""
  pragmas : List (String × String) := []
  structs : List String := []
deriving DecidableEq, Repr

namespace Metadata

/-- Summarises an outline. Programs that have modules in place of contracts are listed by these. The given name wins
over that of the last contract. -/
def ofOutline (outline : Outline) (name : String) : Metadata :=
  let contracts := if outline.contracts.isEmpty then outline.modules else outline.contracts
  { language := outline.language
    version := outline.version
    contracts
    functions := outline.functions.map (·.name)
    modifiers := outline.modifiers
    events := outline.events
    imports := outline.imports
    inheritance := outline.inheritance
    name := if name.isEmpty then contracts.getLast?.getD "" else name
    pragmas := outline.pragmas
    structs := outline.structs }

def ofSource (source : List Char) (language name : String) : Metadata :=
  ofOutline (Outline.ofSource source language) name

def toEntries (metadata : Metadata) : List (String × Value) :=
  let count (items : List String) : Value := .int items.length
  [("language", .str metadata.language), ("version", .str metadata.version),
   ("contractCount", count metadata.contracts), ("functionCount", count metadata.functions),
   ("modifierCount", count metadata.modifiers), ("eventCount", count metadata.events),
   ("structCount", count metadata.structs), ("imports", count metadata.imports),
   ("hasInheritance", .bool !metadata.inheritance.isEmpty),
   ("pragmas", .object (metadata.pragmas.map fun entry ↦ (entry.1, .str entry.2)))]
  ++ if metadata.name.isEmpty then [] else [("name", .str metadata.name)]

def toValue (metadata : Metadata) : Value := .object metadata.toEntries

end Metadata

end ContractAudit
