import DartLayers.Yaml.Node
import DartLayers.Yaml.Scalar

/-!
# DartLayers — YAML documents

The graph of a text becomes a document when each of its nodes has a value. Values are looked for
level by level from the root: all nodes of a level, in order, before the nodes inside them. The
first fault on that way is the one that is reported. When a mapping is reached, the pairs that it
merges from other mappings are put in front of its own.

* **`readDocument`** — the document of a text, or the first fault.
* **`Document.entries?`** — the entries of a mapping.
* **`Document.tree`** — the value at a place, cut where a collection holds itself.
-/

namespace DartLayers.Yaml

/-- A document: a graph whose nodes all have values, and the place of its root. -/
structure Document where
  graph : Graph
  root : Nat

/-- The nodes, which nodes have been looked at, and the collections whose nodes come next, last
first. -/
structure Evaluation where
  graph : Graph
  visited : Array Bool
  pending : List Nat := []

/-- A step of the evaluation. -/
abbrev Evaluating := StateT Evaluation (Except Fault)

/-- Merging that takes so many steps, besides one for each pair of a mapping, is refused. -/
def mergeBound : Nat := 1000000

namespace Evaluating

/-- Refuses the document. -/
def refuse {α : Type} : Evaluating α := throw .malformed

/-! ## Merge keys

Merging changes the graph itself, so that a mapping that is merged twice is merged into once. -/

/-- The node at a place. -/
def node (place : Nat) : Evaluating Node := return (← get).graph.node place

/-- Replaces a node. -/
def put (place : Nat) (node : Node) : Evaluating Unit :=
  modify fun evaluation =>
    { evaluation with graph := evaluation.graph.setIfInBounds place node }

/-- The pairs of a mapping. -/
def pairs (place : Nat) : Evaluating (List (Nat × Nat)) := do
  match ← node place with
  | .mapping _ pairs => return pairs
  | _ => return []

/-- Replaces the pairs of a mapping. -/
def putPairs (place : Nat) (pairs : List (Nat × Nat)) : Evaluating Unit := do
  put place (.mapping (← node place).tag pairs)

mutual

/-- Replaces the merge keys of a mapping from the pair `index` on by the pairs that they stand for,
in front of its other pairs; `merged` are those found so far. The key for a default value becomes a
text. -/
def mergeFrom (place : Nat) : (bound index : Nat) → (merged : List (Nat × Nat)) → Evaluating Unit
  | 0, _, _ => refuse
  | bound + 1, index, merged => do
    let pairs ← pairs place
    match pairs[index]? with
    | none => if merged.isEmpty then return else putPairs place (merged ++ pairs)
    | some (key, value) =>
      match (← node key).tag with
      | .merge =>
        -- The pair behind the merge key takes its place, so the index stays.
        putPairs place (pairs.eraseIdx index)
        let found ← mergedPairs value bound
        mergeFrom place bound index (merged ++ found)
      | .default =>
        match ← node key with
        | .scalar _ text => put key (.scalar .text text)
        | .sequence _ items => put key (.sequence .text items)
        | .mapping _ pairs => put key (.mapping .text pairs)
        mergeFrom place bound (index + 1) merged
      | _ => mergeFrom place bound (index + 1) merged

/-- The pairs that a merge key stands for: those of a mapping, or those of several, the last one
first. -/
def mergedPairs (value : Nat) : (bound : Nat) → Evaluating (List (Nat × Nat))
  | 0 => refuse
  | bound + 1 => do
    match ← node value with
    | .mapping _ _ =>
      mergeFrom value bound 0 []
      pairs value
    | .sequence _ items => mergedItems items bound
    | .scalar _ _ => refuse

/-- The pairs of several mappings, those of the last one first. -/
def mergedItems : (items : List Nat) → (bound : Nat) → Evaluating (List (Nat × Nat))
  | _, 0 => refuse
  | [], _ => return []
  | item :: rest, bound + 1 => do
    match ← node item with
    | .mapping _ _ =>
      mergeFrom item bound 0 []
      let first ← pairs item
      return (← mergedItems rest bound) ++ first
    | _ => refuse

end

/-! ## Looking at nodes -/

/-- The text of a node that is read as a scalar: a mapping stands for its default value. -/
def scalarText (graph : Graph) : (bound place : Nat) → Except Fault (List Char)
  | 0, _ => .error .malformed
  | bound + 1, place =>
    match graph.node place with
    | .scalar _ text => .ok text
    | .mapping _ pairs =>
      match pairs.find? fun (key, _) => (graph.node key).tag == .default with
      | some (_, value) => scalarText graph bound value
      | none => .error .malformed
    | .sequence _ _ => .error .malformed

/-- Whether a node with a tag is a collection, which cannot be a key. -/
def isCollection : Tag → Bool
  | .orderedPairs | .pairs | .set | .sequence | .mapping => true
  | _ => false

/-- The value of a node that is read as a scalar. A time cannot stand for a mapping. -/
def scalarValue (graph : Graph) (place : Nat) : Except Fault Scalar := do
  let node := graph.node place
  let text ← scalarText graph (graph.size + 1) place
  match node, node.tag with
  | .mapping _ _, .time => refuseValue .timeOfMapping
  | _, tag => Scalar.read tag text

/-- Looks at a node once: a scalar must have a value, and a collection is put off. -/
def visit (place : Nat) : Evaluating Unit := do
  let evaluation ← get
  if evaluation.visited.getD place false then return
  else
    if isCollection (evaluation.graph.node place).tag then
      set { evaluation with
        visited := evaluation.visited.setIfInBounds place true
        pending := place :: evaluation.pending }
    else
      discard (scalarValue evaluation.graph place)
      set { evaluation with visited := evaluation.visited.setIfInBounds place true }

/-- Looks at the pairs of a mapping; a collection cannot be a key. -/
def visitPairs : List (Nat × Nat) → Evaluating Unit
  | [] => return
  | (key, value) :: rest => do
    visit key
    if isCollection (← node key).tag then refuse
    visit value
    visitPairs rest

/-- Looks at the items of a list of pairs, each a mapping with one pair. -/
def visitSingles : List Nat → Evaluating Unit
  | [] => return
  | item :: rest => do
    match ← node item with
    | .mapping _ [(key, value)] =>
      visit key
      visit value
      visitSingles rest
    | _ => refuse

/-- Looks at the nodes inside a collection, which must have the form that its tag asks for. -/
def visitInside (place : Nat) : Evaluating Unit := do
  match ← node place with
  | .mapping tag _ =>
    if tag == .mapping || tag == .set then
      mergeFrom place (mergeBound + (← pairs place).length) 0 []
      visitPairs (← pairs place)
    else refuse
  | .sequence tag items =>
    if tag == .sequence then items.forM visit
    else if tag == .orderedPairs || tag == .pairs then visitSingles items
    else refuse
  | .scalar _ _ => refuse

/-- Looks at the nodes level by level. -/
def visitLevels : (bound : Nat) → Evaluating Unit
  | 0 => return
  | bound + 1 => do
    let evaluation ← get
    if evaluation.pending.isEmpty then return
    else
      set { evaluation with pending := [] }
      evaluation.pending.reverse.forM visitInside
      visitLevels bound

end Evaluating

/-- The document of a text, or the first fault; none for a text without a document. -/
def readDocument (text : String) : Except Fault (Option Document) := do
  match ← readGraph text.toList with
  | none => return none
  | some (graph, root) =>
    let evaluating : Evaluating Unit := do
      Evaluating.visit root
      Evaluating.visitLevels (graph.size + 1)
    let ((), evaluation) ← evaluating.run
      { graph, visited := Array.replicate graph.size false }
    return some ⟨evaluation.graph, root⟩

/-! ## Values -/

/-- A value without sharing. -/
inductive Tree where
  | scalar (value : Scalar)
  | list (items : List Tree)
  | mapping (entries : List (Scalar × Tree))
  | set (members : List Scalar)
  | pairs (pairs : List (Tree × Tree))

namespace Document

/-- The scalar at a place. -/
def scalar (document : Document) (place : Nat) : Scalar :=
  (Evaluating.scalarValue document.graph place).toOption.getD .null

/-- A key: its place and its value. -/
structure Key where
  place : Nat
  value : Scalar

/-- The key at a place. -/
def keyAt (document : Document) (place : Nat) : Key :=
  ⟨place, document.scalar place⟩

/-- Whether two keys are one: they are the same node, or they have equal values. -/
def Key.same (a b : Key) : Bool :=
  a.place == b.place || a.value.same b.value

/-- Binds a key: in the place of an equal one, which is kept, or at the end. -/
def bind (key : Key) (value : Nat) : List (Key × Nat) → List (Key × Nat)
  | [] => [(key, value)]
  | (found, old) :: rest =>
    if found.same key then (found, value) :: rest else (found, old) :: bind key value rest

/-- The entries that pairs of nodes make up. -/
def entriesOf (document : Document) (pairs : List (Nat × Nat)) : List (Scalar × Nat) :=
  (pairs.foldl (fun entries (key, value) => bind (document.keyAt key) value entries) []).map
    fun (key, value) => (key.value, value)

/-- The entries of a mapping, each with the place of its value; none for another node. -/
def entries? (document : Document) (place : Nat) : Option (List (Scalar × Nat)) :=
  match document.graph.node place with
  | .mapping .mapping pairs => some (document.entriesOf pairs)
  | _ => none

/-- Whether the value at a place is null. -/
def isNull (document : Document) (place : Nat) : Bool :=
  (document.graph.node place).tag == .null

/-- The pairs of mappings with one pair each. -/
def singles (document : Document) (items : List Nat) : List (Nat × Nat) :=
  items.flatMap fun item =>
    match document.graph.node item with
    | .mapping _ pairs => pairs.take 1
    | _ => []

/-- The value at a place, nested at most `bound` deep. -/
def tree (document : Document) : (bound place : Nat) → Tree
  | 0, _ => .scalar .null
  | bound + 1, place =>
    match document.graph.node place with
    | .mapping .mapping pairs =>
      .mapping ((document.entriesOf pairs).map fun (key, value) => (key, tree document bound value))
    | .mapping .set pairs => .set ((document.entriesOf pairs).map Prod.fst)
    | .sequence .sequence items => .list (items.map (tree document bound))
    | .sequence .orderedPairs items | .sequence .pairs items =>
      .pairs ((document.singles items).map fun (key, value) =>
        (tree document bound key, tree document bound value))
    | _ => .scalar (document.scalar place)

end Document

end DartLayers.Yaml
