import ContractAudit.Yaml.Graph
import ContractAudit.Yaml.Token.Lexer

/-!
# From tokens to graphs

The grammar of the language, read from left to right with one token ahead. A stream holds one document. A node may have
an anchor, under which aliases refer to it from then on, and a tag. Where a node is missing between two tokens of a
collection, an empty scalar stands for it.
-/

namespace ContractAudit.Yaml.Grammar

structure State where
  tokens : List Token
  /-- What is wrong where the tokens end. -/
  failure : ReadError
  nodes : Graph := #[]
  /-- The nodes with anchors. -/
  anchors : List (String × Nat) := []
  /-- What the handles of tags stand for. -/
  handles : List (String × String) := []

abbrev GrammarM := StateT State (Except ReadError)

/-- The handles that every document has. -/
def commonHandles : List (String × String) := [("!", "!"), ("!!", standardTag "")]

/-- How deeply nodes may be nested. -/
def depthLimit : Nat := 490

def peek : GrammarM Token := do
  let state ← get
  match state.tokens with
  | token :: _ => return token
  | [] => throw state.failure

def advance : GrammarM Unit := modify fun state ↦ { state with tokens := state.tokens.drop 1 }

def accept (token : Token) : GrammarM Bool := do
  if (← peek) = token then
    advance
    return true
  else return false

def expect (token : Token) : GrammarM Unit := do
  if !(← accept token) then throw .malformed

def isNext (tokens : List Token) : GrammarM Bool := return tokens.contains (← peek)

/-! ## Nodes -/

/-- Adds a node, under its anchor if it has one. An anchor can be given only once. -/
def addNode (anchor : Option String) (node : Node) : GrammarM Nat := do
  let state ← get
  let id := state.nodes.size
  let anchors ← match anchor with
    | none => pure state.anchors
    | some name =>
      if (state.anchors.lookup name).isSome then throw .malformed
      else pure ((name, id) :: state.anchors)
  set { state with nodes := state.nodes.push node, anchors }
  return id

/-- A scalar in place of a missing node. -/
def addEmpty : GrammarM Nat := addNode none ⟨plainTag "", .scalar ""⟩

def setContent (id : Nat) (content : Content) : GrammarM Unit :=
  modify fun state ↦ { state with nodes := state.nodes.modify id ({ · with content }) }

def anchor? : GrammarM (Option String) := do
  match ← peek with
  | .anchor name =>
    advance
    return some name
  | _ => return none

def tag? : GrammarM (Option (Option String × String)) := do
  match ← peek with
  | .tag handle suffix =>
    advance
    return some (handle, suffix)
  | _ => return none

/-- The whole tag; a handle has to be known. -/
def wholeTag (handle : Option String) (suffix : String) : GrammarM String := do
  match handle with
  | none => return suffix
  | some handle =>
    match (← get).handles.lookup handle with
    | some start => return start ++ suffix
    | none => throw .malformed

/-- Anchor and tag of a node, in either order. -/
def properties : GrammarM (Option String × Option String) := do
  let before ← anchor?
  let tag ← tag?
  let anchor ← if before.isNone && tag.isSome then anchor? else pure before
  match tag with
  | some (handle, suffix) => return (anchor, some (← wholeTag handle suffix))
  | none => return (anchor, none)

inductive Place where
  | block
  /-- In a block mapping, where the entries of a sequence need no indentation. -/
  | entry
  | flow
deriving DecidableEq, Repr

mutual

/-- A node that stands at the given place, inside as many collections as the depth says. -/
def node : (fuel : Nat) → (depth : Nat) → Place → GrammarM Nat
  | 0, _, _ => throw .tooDeep
  | fuel + 1, depth, place => do
    if depthLimit < depth then throw .tooDeep
    if let .alias name := ← peek then
      advance
      match (← get).anchors.lookup name with
      | some id => return id
      | none => throw .malformed
    let (anchor, tag) ← properties
    let sequence (items : GrammarM (List Nat)) : GrammarM Nat := do
      let id ← addNode anchor ⟨collectionTag tag "seq", .sequence []⟩
      setContent id (.sequence (← items))
      return id
    let mapping (entries : GrammarM (List (Nat × Nat))) : GrammarM Nat := do
      let id ← addNode anchor ⟨collectionTag tag "map", .mapping []⟩
      setContent id (.mapping (← entries))
      return id
    let next ← peek
    if next = .blockEntry && place = .entry then sequence (openEntries fuel depth)
    else match next with
      | .scalar text plain =>
        advance
        addNode anchor ⟨scalarTag tag plain text, .scalar text⟩
      | .flowSequenceStart =>
        sequence (advance *> flowItems fuel depth true)
      | .flowMappingStart =>
        mapping (advance *> flowEntries fuel depth true)
      | next =>
        if next = .blockSequenceStart && place != .flow then sequence (advance *> blockItems fuel depth)
        else if next = .blockMappingStart && place != .flow then mapping (advance *> blockEntries fuel depth)
        else if anchor.isSome || tag.isSome then addNode anchor ⟨scalarTag tag true "", .scalar ""⟩
        else throw .malformed

/-- The node before one of the given tokens, or an empty one. -/
def nodeBefore : (fuel : Nat) → (depth : Nat) → Place → List Token → GrammarM Nat
  | 0, _, _, _ => throw .tooDeep
  | fuel + 1, depth, place, ends => do
    if ← isNext ends then addEmpty else node fuel (depth + 1) place

/-- The value of a key, if a colon follows. -/
def valueBefore : (fuel : Nat) → (depth : Nat) → Place → List Token → GrammarM Nat
  | 0, _, _, _ => throw .tooDeep
  | fuel + 1, depth, place, ends => do
    if ← accept .value then nodeBefore fuel depth place ends else addEmpty

/-- The items of a block sequence up to its end. -/
def blockItems : (fuel : Nat) → (depth : Nat) → GrammarM (List Nat)
  | 0, _ => throw .tooDeep
  | fuel + 1, depth => do
    if ← accept .blockEntry then
      let item ← nodeBefore fuel depth .block [.blockEntry, .blockEnd]
      return item :: (← blockItems fuel depth)
    else
      expect .blockEnd
      return []

/-- The items of a sequence that is not indented, as long as there are some. -/
def openEntries : (fuel : Nat) → (depth : Nat) → GrammarM (List Nat)
  | 0, _ => throw .tooDeep
  | fuel + 1, depth => do
    if ← accept .blockEntry then
      let item ← nodeBefore fuel depth .block [.blockEntry, .key, .value, .blockEnd]
      return item :: (← openEntries fuel depth)
    else return []

/-- The entries of a block mapping up to its end. -/
def blockEntries : (fuel : Nat) → (depth : Nat) → GrammarM (List (Nat × Nat))
  | 0, _ => throw .tooDeep
  | fuel + 1, depth => do
    if ← accept .key then
      let ends := [.key, .value, .blockEnd]
      let key ← nodeBefore fuel depth .entry ends
      let value ← valueBefore fuel depth .entry ends
      return (key, value) :: (← blockEntries fuel depth)
    else
      expect .blockEnd
      return []

/-- The items between square brackets up to the closing one. A key makes an item a mapping of one entry. -/
def flowItems : (fuel : Nat) → (depth : Nat) → (first : Bool) → GrammarM (List Nat)
  | 0, _, _ => throw .tooDeep
  | fuel + 1, depth, first => do
    if ← accept .flowSequenceEnd then return []
    if !first then expect .flowEntry
    if ← accept .key then
      let id ← addNode none ⟨standardTag "map", .mapping []⟩
      let key ← nodeBefore fuel (depth + 1) .flow [.value, .flowEntry, .flowSequenceEnd]
      let value ← valueBefore fuel (depth + 1) .flow [.flowEntry, .flowSequenceEnd]
      setContent id (.mapping [(key, value)])
      return id :: (← flowItems fuel depth false)
    else if ← accept .flowSequenceEnd then return []
    else
      let item ← node fuel (depth + 1) .flow
      return item :: (← flowItems fuel depth false)

/-- The entries between braces up to the closing one. -/
def flowEntries : (fuel : Nat) → (depth : Nat) → (first : Bool) → GrammarM (List (Nat × Nat))
  | 0, _, _ => throw .tooDeep
  | fuel + 1, depth, first => do
    if ← accept .flowMappingEnd then return []
    if !first then expect .flowEntry
    if ← accept .key then
      let key ← nodeBefore fuel depth .flow [.value, .flowEntry, .flowMappingEnd]
      let value ← valueBefore fuel depth .flow [.flowEntry, .flowMappingEnd]
      return (key, value) :: (← flowEntries fuel depth false)
    else if ← accept .flowMappingEnd then return []
    else
      let key ← node fuel (depth + 1) .flow
      let value ← addEmpty
      return (key, value) :: (← flowEntries fuel depth false)

end

/-! ## Documents -/

/-- Reads the directives before a document: at most one version, which has to be 1, and every handle once. The fuel
bounds their number. -/
def directives : (fuel : Nat) → (versionSeen : Bool) → (handles : List (String × String)) →
    GrammarM (List (String × String))
  | 0, _, handles => return handles
  | fuel + 1, versionSeen, handles => do
    match ← peek with
    | .directive (.version major) =>
      advance
      if versionSeen || major != 1 then throw .malformed
      directives fuel true handles
    | .directive (.handle handle start) =>
      advance
      if (handles.lookup handle).isSome then throw .malformed
      directives fuel versionSeen ((handle, start) :: handles)
    | .directive .other =>
      advance
      directives fuel versionSeen handles
    | _ => return handles

/-- Skips marks that end a document; the fuel bounds their number. -/
def skipDocumentEnds : (fuel : Nat) → GrammarM Unit
  | 0 => return
  | fuel + 1 => do
    if ← accept .documentEnd then skipDocumentEnds fuel

def isDirective : Token → Bool
  | .directive _ => true
  | _ => false

/-- A document that starts with directives or with its mark. -/
def explicitDocument (fuel : Nat) : GrammarM Nat := do
  let handles ← directives fuel false []
  modify ({ · with handles := handles ++ commonHandles })
  expect .documentStart
  if isDirective (← peek) then addEmpty
  else if ← isNext [.documentStart, .documentEnd, .streamEnd] then addEmpty
  else node fuel 1 .block

/-- The stream must not hold another document. -/
def endOfStream (fuel : Nat) : GrammarM Unit := do
  skipDocumentEnds fuel
  if !(← isNext [.streamEnd]) then
    let _ ← directives fuel false []
    throw .malformed

def stream (fuel : Nat) : GrammarM (Option Nat) := do
  let next ← peek
  if next = .streamEnd then return none
  let root ← if isDirective next || next = .documentStart then explicitDocument fuel
    else do
      modify ({ · with handles := commonHandles })
      node fuel 1 .block
  endOfStream fuel
  return some root

end Grammar

/-- The graph of a text and its root, if it has one. -/
def Graph.ofText (text : List Char) : Except ReadError (Option Nat × Graph) := do
  if !text.all isPermitted then throw .malformed
  let (tokens, failure) := Token.ofText text
  let (root, state) ← (Grammar.stream (4 * tokens.length + 8)).run
    { tokens, failure := failure.getD .malformed }
  return (root, state.nodes)

end ContractAudit.Yaml
