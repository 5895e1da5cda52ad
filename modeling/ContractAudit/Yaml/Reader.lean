import ContractAudit.Yaml.Graph.Grammar
import ContractAudit.Yaml.Graph.Value

/-!
# Reading YAML

A text is read as the value of its only document; a text without a document is null.
-/

namespace ContractAudit.Yaml

def read (text : String) : Except ReadError Value := do
  let (root, graph) ← Graph.ofText text.toList
  match root with
  | some root => graph.toValue root
  | none => return .null

end ContractAudit.Yaml
