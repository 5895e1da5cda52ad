import ContractAudit.Yaml.Graph
import ContractAudit.Yaml.Scalar

/-!
# From graphs to values

Scalars have their values at once. Collections are made empty and filled afterwards, in the order in which they were
met, so that a collection may contain itself and an error further in comes up after all errors further out. Before a
mapping is filled, the mappings that it merges are put in front of its own entries, so that its own entries win.

Once all nodes are made, the value of the root is read off. A node that refers to a collection around it becomes a
reference by the number of collections between.
-/

namespace ContractAudit.Yaml.Graph

/-- What was made of a node; members are nodes, keys are values. -/
inductive Made where
  | value (value : Value)
  | list (items : List Nat)
  | pairs (items : List (Nat × Nat))
  | map (entries : List (Value × Nat))
  | set (members : List Value)

structure State where
  nodes : Graph
  /-- What was made of each node so far. -/
  made : Array (Option Made)
  /-- The collections to fill, the last one first. -/
  queue : List Nat := []

abbrev MakeM := StateT State (Except ReadError)

def node (id : Nat) : MakeM Node := do
  match (← get).nodes[id]? with
  | some node => return node
  | none => throw .malformed

def entries (id : Nat) : MakeM (List (Nat × Nat)) := do
  match (← node id).content with
  | .mapping entries => return entries
  | _ => throw .malformed

def setEntries (id : Nat) (entries : List (Nat × Nat)) : MakeM Unit :=
  modify fun state ↦ { state with nodes := state.nodes.modify id ({ · with content := .mapping entries }) }

def setTag (id : Nat) (tag : String) : MakeM Unit :=
  modify fun state ↦ { state with nodes := state.nodes.modify id ({ · with tag }) }

def remember (id : Nat) (made : Made) : MakeM Unit :=
  modify fun state ↦ { state with made := state.made.setIfInBounds id (some made) }

/-! ## Merged mappings -/

mutual

/-- Puts the mappings that a mapping merges in front of its own entries. -/
def flatten : (fuel : Nat) → (id : Nat) → MakeM Unit
  | 0, _ => throw .tooDeep
  | fuel + 1, id => do
    let merged ← mergedFrom fuel id 0
    if !merged.isEmpty then setEntries id (merged ++ (← entries id))

/-- The entries that a mapping merges from its entry at an index on, which are removed from it. -/
def mergedFrom : (fuel : Nat) → (id index : Nat) → MakeM (List (Nat × Nat))
  | 0, _, _ => throw .tooDeep
  | fuel + 1, id, index => do
    let own ← entries id
    let some (key, value) := own[index]? | return []
    let tag := (← node key).tag
    if tag = standardTag "merge" then
      setEntries id (own.eraseIdx index)
      let here ← match (← node value).content with
        | .mapping _ => mergedMapping fuel value
        | .sequence items => mergedItems fuel items
        | .scalar _ => throw .malformed
      return here ++ (← mergedFrom fuel id index)
    else
      if tag = standardTag "value" then setTag key (standardTag "str")
      mergedFrom fuel id (index + 1)

/-- The entries of a mapping to merge. -/
def mergedMapping : (fuel : Nat) → (id : Nat) → MakeM (List (Nat × Nat))
  | 0, _ => throw .tooDeep
  | fuel + 1, id => do
    let .mapping _ := (← node id).content | throw .malformed
    flatten fuel id
    entries id

/-- The entries of several mappings to merge; those of the first mapping come last, so that they win. -/
def mergedItems : (fuel : Nat) → (ids : List Nat) → MakeM (List (Nat × Nat))
  | 0, _ => throw .tooDeep
  | _ + 1, [] => return []
  | fuel + 1, id :: rest => do
    let first ← mergedMapping fuel id
    return (← mergedItems fuel rest) ++ first

end

/-- A generous bound for the steps of merging: every step passes an entry. -/
def mergeFuel : MakeM Nat := do
  let nodes := (← get).nodes
  let size := nodes.foldl (fun total node ↦ total + match node.content with
    | .mapping entries => entries.length + 1
    | .sequence items => items.length + 1
    | .scalar _ => 1) 1
  return 8 * size * size + 4096

/-! ## Values -/

/-- The text of a node: its own if it is a scalar, and that of its default entry if it is a mapping. -/
def textOf : (fuel : Nat) → (id : Nat) → MakeM (List Char)
  | 0, _ => throw .tooDeep
  | fuel + 1, id => do
    match (← node id).content with
    | .scalar text => return text.toList
    | .sequence _ => throw .malformed
    | .mapping entries =>
      let tags ← entries.mapM fun (key, value) ↦ return ((← node key).tag, value)
      match tags.find? (·.1 = standardTag "value") with
      | some (_, value) => textOf fuel value
      | none => throw .malformed

/-- Makes a collection that is filled later. -/
def postpone (id : Nat) (empty : Made) : MakeM Unit := do
  remember id empty
  modify fun state ↦ { state with queue := id :: state.queue }

def isScalar : Content → Bool
  | .scalar _ => true
  | _ => false

/-- Makes the value of a node, unless it is made. -/
def make (id : Nat) : MakeM Unit := do
  if ((← get).made[id]?.join).isSome then return
  let found ← node id
  let text := textOf ((← get).nodes.size + 1) id
  let scalar (value : MakeM Value) : MakeM Unit := do remember id (.value (← value))
  let read {α : Type} (reading : List Char → Except ReadError α) : MakeM α := do liftM (reading (← text))
  if found.tag = standardTag "null" then scalar do
    let _ ← text
    return .null
  else if found.tag = standardTag "bool" then scalar (return .bool (← read boolOf))
  else if found.tag = standardTag "int" then scalar (return .int (← read intOf))
  else if found.tag = standardTag "float" then scalar (return .float (← read floatOf))
  else if found.tag = standardTag "binary" then scalar (return .bytes (← read bytesOf))
  else if found.tag = standardTag "timestamp" then scalar do
    let text ← text
    if !isScalar found.content then throw .notText
    liftM (timeOf text)
  else if found.tag = standardTag "str" then scalar (return .str (String.ofList (← text)))
  else if found.tag = standardTag "omap" || found.tag = standardTag "pairs" then postpone id (.pairs [])
  else if found.tag = standardTag "set" then postpone id (.set [])
  else if found.tag = standardTag "seq" then postpone id (.list [])
  else if found.tag = standardTag "map" then postpone id (.map [])
  else throw (.unknownTag found.tag)

def keyOf (id : Nat) : MakeM Value := do
  make id
  match (← get).made[id]?.join with
  | some (.value value) => return value
  | _ => throw .malformed

/-- Entries with another one: a key that is there keeps its place and gets the new value. -/
def insert (entries : List (Value × Nat)) (key : Value) (value : Nat) : List (Value × Nat) :=
  if entries.any (·.1.sameKey key) then
    entries.map fun entry ↦ if entry.1.sameKey key then (entry.1, value) else entry
  else entries ++ [(key, value)]

/-- The entries of a mapping with their keys made. -/
def mapOf (id : Nat) : MakeM (List (Value × Nat)) := do
  let .mapping _ := (← node id).content | throw .malformed
  flatten (← mergeFuel) id
  (← entries id).foldlM (fun made (key, value) ↦ do
    let key ← keyOf key
    make value
    return insert made key value) []

/-- The only entry of a node that is to be a mapping with one entry. -/
def pairOf (id : Nat) : MakeM (Nat × Nat) := do
  let [(key, value)] ← entries id | throw .malformed
  make key
  make value
  return (key, value)

def itemsOf (id : Nat) : MakeM (List Nat) := do
  match (← node id).content with
  | .sequence items => return items
  | _ => throw .malformed

/-- Fills a collection. -/
def fill (id : Nat) : MakeM Unit := do
  match (← get).made[id]?.join with
  | some (.list _) =>
    let items ← itemsOf id
    items.forM make
    remember id (.list items)
  | some (.pairs _) => remember id (.pairs (← (← itemsOf id).mapM pairOf))
  | some (.map _) => remember id (.map (← mapOf id))
  | some (.set _) => remember id (.set ((← mapOf id).map (·.1)))
  | _ => return

/-- Fills all collections, round by round; each round fills what the one before met. The fuel bounds their number. -/
def fillAll : (fuel : Nat) → MakeM Unit
  | 0 => return
  | fuel + 1 => do
    let queue := (← get).queue.reverse
    if queue.isEmpty then return
    modify ({ · with queue := [] })
    queue.forM fill
    fillAll fuel

/-! ## Reading off -/

/-- A value, and how many of the collections around it are referred to in it. -/
abbrev Reading := Value × Nat

/-- The reading of a collection, from the greatest reach among its members. -/
def around (value : Value) (reach : Nat) : Reading := (value, reach - 1)

/-- Values of nodes that refer to nothing around them are read once. -/
abbrev ReadM := StateM (Array (Option Value))

mutual

/-- The value of a node inside the given collections, the innermost first. -/
def reading (made : Array (Option Made)) : (fuel : Nat) → (path : List (Option Nat)) → (id : Nat) → ReadM Reading
  | 0, _, _ => return (.null, 0)
  | fuel + 1, path, id => do
    let content := made[id]?.join
    if let some level := path.idxOf? (some id) then
      let isMap := match content with
        | some (.map _) => true
        | _ => false
      return (.enclosing level isMap, level + 1)
    if let some value := (← get)[id]?.join then return (value, 0)
    let inside := some id :: path
    let (value, reach) ← match content with
      | none => pure (.null, 0)
      | some (.value value) => pure (value, 0)
      | some (.set members) => pure (.set members, 0)
      | some (.list items) => do
        let (items, reach) ← readings made fuel inside items
        pure (around (.list items) reach)
      | some (.pairs items) => do
        let (items, reach) ← pairReadings made fuel inside items
        pure (around (.list items) reach)
      | some (.map entries) => do
        let (values, reach) ← readings made fuel inside (entries.map (·.2))
        pure (around (.map ((entries.map (·.1)).zip values)) reach)
    if reach = 0 then modify (·.setIfInBounds id (some value))
    return (value, reach)

/-- The values of several nodes, and the greatest reach among them. -/
def readings (made : Array (Option Made)) : (fuel : Nat) → (path : List (Option Nat)) → (ids : List Nat) →
    ReadM (List Value × Nat)
  | 0, _, _ => return ([], 0)
  | _ + 1, _, [] => return ([], 0)
  | fuel + 1, path, id :: rest => do
    let (value, reach) ← reading made fuel path id
    let (values, others) ← readings made fuel path rest
    return (value :: values, max reach others)

/-- The values of pairs of nodes, and the greatest reach among them. -/
def pairReadings (made : Array (Option Made)) : (fuel : Nat) → (path : List (Option Nat)) → (ids : List (Nat × Nat)) →
    ReadM (List Value × Nat)
  | 0, _, _ => return ([], 0)
  | _ + 1, _, [] => return ([], 0)
  | fuel + 1, path, (first, second) :: rest => do
    let (members, reach) ← readings made fuel (none :: path) [first, second]
    let (values, others) ← pairReadings made fuel path rest
    return (.tuple members :: values, max (reach - 1) others)

end

def toValue (graph : Graph) (root : Nat) : Except ReadError Value := do
  let start : State := { nodes := graph, made := Array.replicate graph.size none }
  let (_, state) ← (do make root; fillAll (graph.size + 1)).run start
  let fuel := state.made.foldl (fun total made ↦ total + match made with
    | some (.list items) => items.length + 3
    | some (.pairs items) => 3 * items.length + 3
    | some (.map entries) => entries.length + 3
    | _ => 3) 3
  return ((reading state.made fuel [] root).run (Array.replicate graph.size none)).1.1

end ContractAudit.Yaml.Graph
