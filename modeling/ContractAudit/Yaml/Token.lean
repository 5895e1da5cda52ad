/-!
# Tokens of YAML documents

The words of the language. The starts and ends of block collections have no characters of their own; they stand for the
places where the indentation grows and shrinks.
-/

namespace ContractAudit.Yaml

/-- What a line with a percent sign says about the document after it. -/
inductive Directive where
  | version (major : Nat)
  /-- A handle stands for the start of tags. -/
  | handle (handle : String) (start : String)
  | other
deriving DecidableEq, Repr

inductive Token where
  | directive (directive : Directive)
  | documentStart
  | documentEnd
  | streamEnd
  | blockSequenceStart
  | blockMappingStart
  | blockEnd
  | blockEntry
  | flowSequenceStart
  | flowSequenceEnd
  | flowMappingStart
  | flowMappingEnd
  | flowEntry
  | key
  | value
  | alias (name : String)
  | anchor (name : String)
  /-- A tag that starts with a handle, or a whole one. -/
  | tag (handle : Option String) (suffix : String)
  | scalar (text : String) (plain : Bool)
deriving DecidableEq, Repr

end ContractAudit.Yaml
