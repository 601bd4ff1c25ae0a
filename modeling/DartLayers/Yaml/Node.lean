import DartLayers.Yaml.Tag
import DartLayers.Yaml.Token.Scan

/-!
# DartLayers — the node graph of a YAML text

The tokens of a text make up at most one document, a graph of nodes. A node is referred to by its
place in the graph, so that an alias, which refers to a node by name, shares it; a collection may
hold itself.

* **`Graph`** — the nodes by their places.
* **`composeRoot`** — reads tokens as a document.
* **`readGraph`** — the graph of a text.
-/

namespace DartLayers.Yaml

/-- A node; the nodes inside a collection are given by their places. -/
inductive Node where
  | scalar (tag : Tag) (text : List Char)
  | sequence (tag : Tag) (items : List Nat)
  | mapping (tag : Tag) (pairs : List (Nat × Nat))
  deriving Repr, DecidableEq

/-- The tag of a node. -/
def Node.tag : Node → Tag
  | .scalar found _ => found
  | .sequence found _ => found
  | .mapping found _ => found

/-- The nodes of a document by their places. -/
abbrev Graph := Array Node

/-- The node at a place. -/
def Graph.node (graph : Graph) (place : Nat) : Node :=
  graph.getD place (.scalar .null [])

/-- What is left of the tokens, the nodes so far, the nodes with a name, and what the handles of
tags stand for. -/
structure Composer where
  tokens : List Token
  graph : Graph := #[]
  anchors : List (List Char × Nat) := []
  handles : List (List Char × List Char) := []

/-- A reader of tokens. -/
abbrev Composing := StateT Composer (Except Fault)

/-- The handles that need no directive. -/
def defaultHandles : List (List Char × List Char) := [
  (['!'], ['!']), (['!', '!'], standardAddress)]

/-- The name and the written tag of a node. -/
structure Properties where
  anchor : Option (List Char) := none
  tag : Option (List Char) := none

namespace Composing

/-! ## Tokens and places -/

/-- Refuses the text. -/
def refuse {α : Type} : Composing α := throw .malformed

/-- The next token. -/
def peek : Composing Token := do
  match (← get).tokens with
  | [] => refuse
  | .fault fault :: _ => throw fault
  | token :: _ => return token

/-- Passes over the next token. -/
def skip : Composing Unit :=
  modify fun composer => { composer with tokens := composer.tokens.tail }

/-- Passes over a token, which must be there. -/
def expect (token : Token) : Composing Unit := do
  if (← peek) == token then skip else refuse

/-- Whether the next token is one of some. -/
def atOneOf (tokens : List Token) : Composing Bool := return tokens.contains (← peek)

/-- Adds a node and gives it its name, if it has one; no two nodes have one name. -/
def add (anchor : Option (List Char)) (node : Node) : Composing Nat := do
  let composer ← get
  let place := composer.graph.size
  match anchor with
  | none =>
    set { composer with graph := composer.graph.push node }
  | some name =>
    if (composer.anchors.lookup name).isSome then refuse
    set { composer with
      graph := composer.graph.push node, anchors := (name, place) :: composer.anchors }
  return place

/-- Replaces a node. -/
def put (place : Nat) (node : Node) : Composing Unit :=
  modify fun composer => { composer with graph := composer.graph.setIfInBounds place node }

/-- Adds a collection, whose place its items may refer to while they are read. -/
def addCollection {α : Type} (anchor : Option (List Char)) (make : List α → Node)
    (items : Composing (List α)) : Composing Nat := do
  let place ← add anchor (make [])
  put place (make (← items))
  return place

/-- A node without text. -/
def addEmpty : Composing Nat := add none (.scalar .null [])

/-! ## Names and tags -/

/-- The full address of a tag. -/
def tagAddress (handle : Option (List Char)) (address : List Char) : Composing (List Char) := do
  match handle with
  | none => return address
  | some handle =>
    match (← get).handles.lookup handle with
    | none => refuse
    | some meaning => return meaning ++ address

/-- The name in front of a node. -/
def anchor? : Composing (Option (List Char)) := do
  match ← peek with
  | .anchor name => skip; return some name
  | _ => return none

/-- The tag in front of a node, with the handle still to be looked up. -/
def tag? : Composing (Option (Option (List Char) × List Char)) := do
  match ← peek with
  | .tag handle address => skip; return some (handle, address)
  | _ => return none

/-- The name and the tag in front of a node, in either order. -/
def properties : Composing Properties := do
  let before ← anchor?
  let tag ← tag?
  let after ← if before.isNone && tag.isSome then anchor? else pure none
  match tag with
  | none => return { anchor := before.or after }
  | some (handle, address) =>
    return { anchor := before.or after, tag := some (← tagAddress handle address) }

end Composing

/-- The tag of a collection; a lone mark asks for the usual one. -/
def collectionTag (written : Option (List Char)) (usual : Tag) : Tag :=
  match written with
  | none => usual
  | some address => if address == ['!'] then usual else .ofAddress address

/-- The tag of a scalar: a quoted one is text unless a tag is written. -/
def scalarTag (written : Option (List Char)) (isPlain : Bool) (text : List Char) : Tag :=
  match written with
  | none => if isPlain then .ofPlain text else .text
  | some address => if address == ['!'] then .ofPlain text else .ofAddress address

/-- A sequence with the written properties. -/
def Properties.sequence (properties : Properties) (items : List Nat) : Node :=
  .sequence (collectionTag properties.tag .sequence) items

/-- A mapping with the written properties. -/
def Properties.mapping (properties : Properties) (pairs : List (Nat × Nat)) : Node :=
  .mapping (collectionTag properties.tag .mapping) pairs

namespace Composing

mutual

/-- A node. Block collections are allowed where `block` says so, and a block sequence that is not
indented where `flat` says so. -/
def node (block flat : Bool) : (bound : Nat) → Composing Nat
  | 0 => refuse
  | bound + 1 => do
    match ← peek with
    | .alias name =>
      skip
      match (← get).anchors.lookup name with
      | some place => return place
      | none => refuse
    | _ =>
      let properties ← properties
      match ← peek with
      | .scalar isPlain text =>
        skip
        add properties.anchor (.scalar (scalarTag properties.tag isPlain text) text)
      | .blockEntry =>
        if flat then
          addCollection properties.anchor properties.sequence (flatItems bound)
        else emptyNode properties
      | .flowSequence =>
        skip
        addCollection properties.anchor properties.sequence (flowItems true bound)
      | .flowMapping =>
        skip
        addCollection properties.anchor properties.mapping (flowPairs true bound)
      | .blockSequence =>
        if block then
          skip
          addCollection properties.anchor properties.sequence (blockItems bound)
        else emptyNode properties
      | .blockMapping =>
        if block then
          skip
          addCollection properties.anchor properties.mapping (blockPairs bound)
        else emptyNode properties
      | _ => emptyNode properties

/-- A node without text; it must have a name or a tag. -/
def emptyNode (properties : Properties) : Composing Nat := do
  if properties.anchor.isNone && properties.tag.isNone then refuse
  else add properties.anchor (.scalar (scalarTag properties.tag true []) [])

/-- The entries of a block sequence up to its end. -/
def blockItems : (bound : Nat) → Composing (List Nat)
  | 0 => refuse
  | bound + 1 => do
    match ← peek with
    | .blockEntry =>
      skip
      let item ← if ← atOneOf [.blockEntry, .blockEnd] then addEmpty else node true false bound
      return item :: (← blockItems bound)
    | _ =>
      expect .blockEnd
      return []

/-- The entries of a block sequence that is not indented; it ends where no entry follows. -/
def flatItems : (bound : Nat) → Composing (List Nat)
  | 0 => refuse
  | bound + 1 => do
    match ← peek with
    | .blockEntry =>
      skip
      let item ← if ← atOneOf [.blockEntry, .key, .value, .blockEnd] then addEmpty
        else node true false bound
      return item :: (← flatItems bound)
    | _ => return []

/-- The pairs of a block mapping up to its end. -/
def blockPairs : (bound : Nat) → Composing (List (Nat × Nat))
  | 0 => refuse
  | bound + 1 => do
    match ← peek with
    | .key =>
      skip
      let key ← if ← atOneOf [.key, .value, .blockEnd] then addEmpty else node true true bound
      let value ← blockValue bound
      return (key, value) :: (← blockPairs bound)
    | _ =>
      expect .blockEnd
      return []

/-- The value of a pair of a block mapping. -/
def blockValue : (bound : Nat) → Composing Nat
  | 0 => refuse
  | bound + 1 => do
    match ← peek with
    | .value =>
      skip
      if ← atOneOf [.key, .value, .blockEnd] then addEmpty else node true true bound
    | _ => addEmpty

/-- The entries of a flow sequence up to its end. -/
def flowItems (isFirst : Bool) : (bound : Nat) → Composing (List Nat)
  | 0 => refuse
  | bound + 1 => do
    if !isFirst && (← peek) != .flowSequenceEnd then expect .flowEntry
    match ← peek with
    | .flowSequenceEnd =>
      skip
      return []
    | .key =>
      skip
      let place ← add none (.mapping .mapping [])
      let key ← if ← atOneOf [.value, .flowEntry, .flowSequenceEnd] then addEmpty
        else node false false bound
      let value ← flowValue .flowSequenceEnd bound
      put place (.mapping .mapping [(key, value)])
      return place :: (← flowItems false bound)
    | _ =>
      let item ← node false false bound
      return item :: (← flowItems false bound)

/-- The value of a pair inside a flow collection that ends with a token. -/
def flowValue (ending : Token) : (bound : Nat) → Composing Nat
  | 0 => refuse
  | bound + 1 => do
    match ← peek with
    | .value =>
      skip
      if ← atOneOf [.flowEntry, ending] then addEmpty else node false false bound
    | _ => addEmpty

/-- The pairs of a flow mapping up to its end; a node without a mark is a key without a value. -/
def flowPairs (isFirst : Bool) : (bound : Nat) → Composing (List (Nat × Nat))
  | 0 => refuse
  | bound + 1 => do
    if !isFirst && (← peek) != .flowMappingEnd then expect .flowEntry
    match ← peek with
    | .flowMappingEnd =>
      skip
      return []
    | .key =>
      skip
      let key ← if ← atOneOf [.value, .flowEntry, .flowMappingEnd] then addEmpty
        else node false false bound
      let value ← flowValue .flowMappingEnd bound
      return (key, value) :: (← flowPairs false bound)
    | _ =>
      let key ← node false false bound
      let value ← addEmpty
      return (key, value) :: (← flowPairs false bound)

end

/-! ## Documents -/

/-- The directives in front of a document; one of a kind, and the major version is one. -/
def directives (hasVersion : Bool) : (bound : Nat) → Composing Unit
  | 0 => refuse
  | bound + 1 => do
    match ← peek with
    | .directive (.version major) =>
      if hasVersion || major != 1 then refuse
      skip
      directives true bound
    | .directive (.handle handle address) =>
      let composer ← get
      if (composer.handles.lookup handle).isSome then refuse
      set { composer with handles := (handle, address) :: composer.handles }
      skip
      directives hasVersion bound
    | .directive .other =>
      skip
      directives hasVersion bound
    | _ => modify fun composer => { composer with handles := composer.handles ++ defaultHandles }

/-- Passes over the marks that end documents. -/
def skipEnds : (bound : Nat) → Composing Unit
  | 0 => refuse
  | bound + 1 => do
    match ← peek with
    | .documentEnd =>
      skip
      skipEnds bound
    | _ => return

/-- Whether the next token is a directive. -/
def atDirective : Composing Bool := do
  match ← peek with
  | .directive _ => return true
  | _ => return false

/-- The root of a document that starts with a mark; none if the text ends. -/
def markedRoot (bound : Nat) : Composing (Option Nat) := do
  skipEnds bound
  if (← peek) == .endOfText then return none
  else
    directives false bound
    expect .documentStart
    if (← atDirective) || (← atOneOf [.documentStart, .documentEnd, .endOfText]) then
      return some (← addEmpty)
    else return some (← node true false bound)

/-- The root of the first document. -/
def root (bound : Nat) : Composing (Option Nat) := do
  if (← atDirective) || (← atOneOf [.documentStart, .endOfText]) then markedRoot bound
  else
    modify fun composer => { composer with handles := defaultHandles }
    return some (← node true false bound)

/-- The end of the text; another document is refused. -/
def finish (bound : Nat) : Composing Unit := do
  skipEnds bound
  if (← peek) == .endOfText then return
  else
    modify fun composer => { composer with handles := [] }
    directives false bound
    refuse

end Composing

/-- Reads tokens as the graph of a document and its root; none if there is no document. -/
def composeRoot (tokens : List Token) : Except Fault (Option (Graph × Nat)) := do
  let bound := 4 * tokens.length + 8
  let reading : Composing (Option Nat) := do
    let root ← Composing.root bound
    if root.isSome then Composing.finish bound
    return root
  let (root, composer) ← reading.run { tokens }
  return root.map fun place => (composer.graph, place)

/-- The graph of a text and its root; none if there is no document. -/
def readGraph (text : List Char) : Except Fault (Option (Graph × Nat)) :=
  if text.all isPrintable then composeRoot (scanTokens text) else .error .malformed

end DartLayers.Yaml
