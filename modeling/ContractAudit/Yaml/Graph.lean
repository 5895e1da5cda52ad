import ContractAudit.Yaml.Spelling

/-!
# Documents as graphs

A document is a graph of nodes, because an alias refers to a node that stands elsewhere, possibly around it. Nodes are
known by their numbers. Every node has a tag, which says what kind of value it stands for.
-/

namespace ContractAudit.Yaml

/-- The tag of a kind of value that the language itself knows. -/
def standardTag (kind : String) : String := "tag:yaml.org,2002:" ++ kind

inductive Content where
  | scalar (text : String)
  | sequence (items : List Nat)
  | mapping (entries : List (Nat × Nat))
deriving DecidableEq, Repr

structure Node where
  tag : String
  content : Content
deriving DecidableEq, Repr

abbrev Graph := Array Node

def plainTag (text : String) : String :=
  standardTag <| match spelling text.toList with
    | .null => "null"
    | .bool => "bool"
    | .int => "int"
    | .float => "float"
    | .time => "timestamp"
    | .merge => "merge"
    | .standIn => "value"
    | .reserved => "yaml"
    | .text => "str"

/-- The tag of a scalar: without one of its own, or with an exclamation mark only, its spelling may decide. -/
def scalarTag (own : Option String) (plain : Bool) (text : String) : String :=
  match own with
  | none => if plain then plainTag text else standardTag "str"
  | some "!" => plainTag text
  | some tag => tag

/-- The tag of a collection, with the one for its kind where it has none of its own. -/
def collectionTag (own : Option String) (kind : String) : String :=
  match own with
  | none => standardTag kind
  | some "!" => standardTag kind
  | some tag => tag

end ContractAudit.Yaml
