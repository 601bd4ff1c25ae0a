import DartLayers.Proofs.Yaml.Composing
import DartLayers.Proofs.Yaml.Evaluation
import Mathlib.Data.List.Basic

/-!
# DartLayers — the values of a text in block style

The keys of a text in block style are different texts and its scalars have values, so that nothing is
refused when its nodes become a document. The entries of each mapping are then those that are written.

* **`Graph.Holds`** — nodes in a row at their places.
* **`BlockText.readDocument_chars`** — the document of a text.
* **`Block.entriesOf_pairs`**, **`Block.map_tree`** — the entries of a block with their values.
-/

namespace DartLayers.Yaml

/-! ## The nodes of a document -/

namespace Graph

variable {graph : Graph}

/-- A graph holds nodes from a place on. -/
def Holds (graph : Graph) : (place : Nat) → List Node → Prop
  | _, [] => True
  | place, node :: nodes => graph.node place = node ∧ graph.Holds (place + 1) nodes

theorem holds_append {place : Nat} {first second : List Node} :
    graph.Holds place (first ++ second) ↔
      graph.Holds place first ∧ graph.Holds (place + first.length) second := by
  induction first generalizing place with
  | nil => simp [Holds]
  | cons node first ih =>
    rw [List.cons_append, Holds, Holds, ih, and_assoc, List.length_cons, Nat.add_assoc,
      Nat.add_comm 1]

/-- A graph holds the nodes that it is made of. -/
theorem holds_toArray (before nodes : List Node) :
    Graph.Holds (before ++ nodes).toArray before.length nodes := by
  induction nodes generalizing before with
  | nil => trivial
  | cons node nodes ih =>
    refine ⟨by simp [Graph.node], ?_⟩
    simpa using ih (before ++ [node])

end Graph

namespace Block

variable {graph : Graph} {place : Nat}

theorem holds_flat {head : Head} {value : Option (Nat × Leaf)} {rest : Block}
    (h : graph.Holds place (nodes place (flat head value rest))) :
    graph.node place = .scalar .text head.key ∧ graph.node (place + 1) = valueNode value ∧
      graph.Holds (place + 2) (rest.nodes (place + 2)) :=
  h

theorem holds_nested {head : Head} {depth : Nat} {inner rest : Block}
    (h : graph.Holds place (nodes place (nested head depth inner rest))) :
    graph.node place = .scalar .text head.key ∧
      graph.node (place + 1) = .mapping .mapping (inner.pairs (place + 2)) ∧
      graph.Holds (place + 2) (inner.nodes (place + 2)) ∧
      graph.Holds (place + 2 + inner.size) (rest.nodes (place + 2 + inner.size)) := by
  obtain ⟨hkey, hvalue, hnodes⟩ := h
  rw [Graph.holds_append, length_nodes] at hnodes
  exact ⟨hkey, hvalue, hnodes⟩

/-- The keys of entries are texts behind the place where their nodes start. -/
theorem exists_key_of_mem_pairs {block : Block} (h : graph.Holds place (block.nodes place)) :
    ∀ pair ∈ block.pairs place, ∃ key ∈ block.keys, place ≤ pair.1 ∧
      graph.node pair.1 = .scalar .text key := by
  induction block generalizing place with
  | nil => simp [pairs]
  | flat head value rest ih =>
    obtain ⟨hkey, -, hrest⟩ := holds_flat h
    rw [pairs, List.forall_mem_cons]
    refine ⟨⟨head.key, List.mem_cons_self, Nat.le_refl place, hkey⟩, fun pair hpair => ?_⟩
    obtain ⟨key, hmem, hplace, hnode⟩ := ih hrest pair hpair
    exact ⟨key, List.mem_cons_of_mem _ hmem, by omega, hnode⟩
  | nested head depth inner rest _ ihrest =>
    obtain ⟨hkey, -, -, hrest⟩ := holds_nested h
    rw [pairs, List.forall_mem_cons]
    refine ⟨⟨head.key, List.mem_cons_self, Nat.le_refl place, hkey⟩, fun pair hpair => ?_⟩
    obtain ⟨key, hmem, hplace, hnode⟩ := ihrest hrest pair hpair
    exact ⟨key, List.mem_cons_of_mem _ hmem, by omega, hnode⟩

theorem exists_text_of_mem_pairs {block : Block} (h : graph.Holds place (block.nodes place)) :
    ∀ pair ∈ block.pairs place, ∃ text, graph.node pair.1 = .scalar .text text := by
  intro pair hpair
  obtain ⟨key, -, -, hnode⟩ := exists_key_of_mem_pairs h pair hpair
  exact ⟨key, hnode⟩

theorem isCalm_key (key : List Char) : Node.IsCalm graph (.scalar .text key) :=
  ⟨.text (String.ofList key), rfl⟩

theorem isCalm_valueNode {value : Option (Nat × Leaf)} (h : ∀ entry ∈ value, entry.2.IsReadable) :
    (valueNode value).IsCalm graph := by
  cases value with
  | none => exact ⟨.null, rfl⟩
  | some entry =>
    obtain ⟨-, hread⟩ := h entry rfl
    cases hvalue : Scalar.read entry.2.tag entry.2.text with
    | error fault => simp [hvalue, Except.isOk, Except.toBool] at hread
    | ok value => exact ⟨value, hvalue⟩

/-- The nodes of entries have values. -/
theorem isCalm_of_mem_nodes {block : Block} (hblock : block.IsWritten)
    (h : graph.Holds place (block.nodes place)) : ∀ node ∈ block.nodes place, node.IsCalm graph := by
  induction block generalizing place with
  | nil => simp [nodes]
  | flat head value rest ih =>
    obtain ⟨-, hvalue, -, hrest⟩ := hblock
    rw [nodes, List.forall_mem_cons, List.forall_mem_cons]
    exact ⟨isCalm_key head.key, isCalm_valueNode hvalue, ih hrest (holds_flat h).2.2⟩
  | nested head depth inner rest ihinner ihrest =>
    obtain ⟨-, -, hinner, -, hrest⟩ := hblock
    obtain ⟨-, -, hinside, hbehind⟩ := holds_nested h
    rw [nodes, List.forall_mem_cons, List.forall_mem_cons, List.forall_mem_append]
    exact ⟨isCalm_key head.key, ⟨rfl, exists_text_of_mem_pairs hinside⟩, ihinner hinner hinside,
      ihrest hrest hbehind⟩

end Block

namespace BlockText

variable {text : BlockText}

theorem holds_graph (text : BlockText) : text.graph.Holds 1 (text.block.nodes 1) :=
  Graph.holds_toArray [_] (text.block.nodes 1)

theorem isCalm_graph (h : text.IsWritten) : text.graph.IsCalm := by
  have hnodes := Block.isCalm_of_mem_nodes h.1 (holds_graph text)
  intro place
  cases place with
  | zero => exact ⟨rfl, Block.exists_text_of_mem_pairs (holds_graph text)⟩
  | succ place =>
    have hnode : text.graph.node (place + 1) =
        (text.block.nodes 1)[place]?.getD (.scalar .null []) := by
      simp [Graph.node, graph, Array.getD_eq_getD_getElem?]
    rw [hnode]
    cases hfound : (text.block.nodes 1)[place]? with
    | none => exact ⟨.null, rfl⟩
    | some node => exact hnodes node (List.mem_of_getElem? hfound)

/-- The document of a text. -/
def document (text : BlockText) : Document :=
  ⟨text.graph, 0⟩

/-- **A text in block style is read as its document.** -/
theorem readDocument_chars (h : text.IsWritten) : readDocument (String.ofList text.chars) =
    .ok (if text.block = .nil then none else some text.document) := by
  have hgraph := readGraph_chars h
  split
  · rename_i hnil
    rw [if_pos hnil] at hgraph
    rw [readDocument, String.toList_ofList, hgraph]
    rfl
  · rename_i hsome
    rw [if_neg hsome] at hgraph
    exact readDocument_of_isCalm (by rwa [String.toList_ofList]) (isCalm_graph h)

end BlockText

/-! ## Entries and values -/

namespace Document

variable {document : Document}

theorem scalar_of_text {place : Nat} {text : List Char}
    (h : document.graph.node place = .scalar .text text) :
    document.scalar place = .text (String.ofList text) := by
  rw [scalar, Evaluating.scalarValue_scalar h]
  rfl

/-- A key that no entry has yet is bound behind them. -/
theorem bind_of_forall_not_same {key : Key} {entries : List (Key × Nat)}
    (h : ∀ entry ∈ entries, entry.1.same key = false) (value : Nat) :
    bind key value entries = entries ++ [(key, value)] := by
  induction entries with
  | nil => rfl
  | cons entry entries ih =>
    rw [List.forall_mem_cons] at h
    rw [bind, h.1, if_neg Bool.false_ne_true, ih h.2, List.cons_append]

theorem foldl_bind {pairs : List (Nat × Nat)} {entries : List (Key × Nat)}
    (h : pairs.Pairwise fun first second =>
      (document.keyAt first.1).same (document.keyAt second.1) = false)
    (hentries : ∀ entry ∈ entries, ∀ pair ∈ pairs, entry.1.same (document.keyAt pair.1) = false) :
    pairs.foldl (fun entries (key, value) => bind (document.keyAt key) value entries) entries =
      entries ++ pairs.map fun (key, value) => (document.keyAt key, value) := by
  induction pairs generalizing entries with
  | nil => simp
  | cons pair pairs ih =>
    rw [List.pairwise_cons] at h
    have hbind := bind_of_forall_not_same (fun entry hentry =>
      hentries entry hentry pair List.mem_cons_self) pair.2
    rw [List.foldl_cons]
    dsimp only
    rw [hbind, ih h.2, List.append_assoc]
    · rfl
    · intro entry hentry other hother
      rcases List.mem_append.1 hentry with hmem | hmem
      · exact hentries entry hmem other (List.mem_cons_of_mem _ hother)
      · obtain rfl := List.mem_singleton.1 hmem
        exact h.1 other hother

/-- Pairs with different keys are the entries of their mapping. -/
theorem entriesOf_of_pairwise {pairs : List (Nat × Nat)}
    (h : pairs.Pairwise fun first second =>
      (document.keyAt first.1).same (document.keyAt second.1) = false) :
    document.entriesOf pairs = pairs.map fun (key, value) => (document.scalar key, value) := by
  rw [entriesOf, foldl_bind h (by simp), List.nil_append, List.map_map]
  rfl

/-- Texts at different places are one key only if they are equal. -/
theorem not_same_of_ne {first second : Nat} {text other : List Char} (hplace : first ≠ second)
    (hfirst : document.graph.node first = .scalar .text text)
    (hsecond : document.graph.node second = .scalar .text other) (hne : text ≠ other) :
    (document.keyAt first).same (document.keyAt second) = false := by
  rw [keyAt, keyAt, Key.same, scalar_of_text hfirst, scalar_of_text hsecond]
  have hstring : String.ofList text ≠ String.ofList other := fun heq => hne (String.ofList_injective heq)
  simp [hplace, Scalar.same, Scalar.toInt?, hstring]

end Document

namespace Block

variable {document : Document} {place : Nat}

/-- Different entries have different keys. -/
theorem pairwise_pairs {block : Block} (hblock : block.IsWritten)
    (h : document.graph.Holds place (block.nodes place)) :
    (block.pairs place).Pairwise fun first second =>
      (document.keyAt first.1).same (document.keyAt second.1) = false := by
  induction block generalizing place with
  | nil => exact .nil
  | flat head value rest ih =>
    obtain ⟨-, -, hother, hrest⟩ := hblock
    obtain ⟨hkey, -, hbehind⟩ := holds_flat h
    refine List.pairwise_cons.2 ⟨fun pair hpair => ?_, ih hrest hbehind⟩
    obtain ⟨key, hmem, hplace, hnode⟩ := exists_key_of_mem_pairs hbehind pair hpair
    exact Document.not_same_of_ne (by dsimp only; omega) hkey hnode (by rintro rfl; exact hother hmem)
  | nested head depth inner rest _ ihrest =>
    obtain ⟨-, -, -, hother, hrest⟩ := hblock
    obtain ⟨hkey, -, -, hbehind⟩ := holds_nested h
    refine List.pairwise_cons.2 ⟨fun pair hpair => ?_, ihrest hrest hbehind⟩
    obtain ⟨key, hmem, hplace, hnode⟩ := exists_key_of_mem_pairs hbehind pair hpair
    exact Document.not_same_of_ne (by dsimp only; omega) hkey hnode (by rintro rfl; exact hother hmem)

theorem entriesOf_pairs {block : Block} (hblock : block.IsWritten)
    (h : document.graph.Holds place (block.nodes place)) :
    document.entriesOf (block.pairs place) =
      (block.pairs place).map fun (key, value) => (document.scalar key, value) :=
  Document.entriesOf_of_pairwise (pairwise_pairs hblock h)

/-- The keys of entries are the scalars of their pairs. -/
theorem map_scalar_pairs {block : Block} (h : document.graph.Holds place (block.nodes place)) :
    ((block.pairs place).map fun pair => document.scalar pair.1) =
      block.keys.map fun key => .text (String.ofList key) := by
  induction block generalizing place with
  | nil => rfl
  | flat head value rest ih =>
    obtain ⟨hkey, -, hbehind⟩ := holds_flat h
    rw [pairs, List.map_cons, ih hbehind, Document.scalar_of_text hkey]
    rfl
  | nested head depth inner rest _ ihrest =>
    obtain ⟨hkey, -, -, hbehind⟩ := holds_nested h
    rw [pairs, List.map_cons, ihrest hbehind, Document.scalar_of_text hkey]
    rfl

theorem tree_valueNode {value : Option (Nat × Leaf)}
    (h : document.graph.node place = valueNode value) {bound : Nat} (hbound : 0 < bound) :
    document.tree bound place = valueTree value := by
  obtain ⟨bound, rfl⟩ : ∃ n, bound = n + 1 := ⟨bound - 1, by omega⟩
  rw [Document.tree, h]
  cases value with
  | none =>
    simp only [valueNode, Document.scalar, Evaluating.scalarValue_scalar h]
    rfl
  | some entry =>
    simp only [valueNode, Document.scalar, Evaluating.scalarValue_scalar h]
    rfl

/-- **The values of entries**, if they are not cut. -/
theorem map_tree {block : Block} (hblock : block.IsWritten)
    (h : document.graph.Holds place (block.nodes place)) {bound : Nat} (hbound : block.size < bound) :
    ((block.pairs place).map fun (key, value) => (document.scalar key, document.tree bound value)) =
      block.entries := by
  induction block generalizing place bound with
  | nil => rfl
  | flat head value rest ih =>
    obtain ⟨-, -, -, hrest⟩ := hblock
    obtain ⟨hkey, hvalue, hbehind⟩ := holds_flat h
    rw [size] at hbound
    rw [pairs, List.map_cons, entries, ih hrest hbehind (by omega)]
    dsimp only
    rw [Document.scalar_of_text hkey, tree_valueNode hvalue (by omega)]
  | nested head depth inner rest ihinner ihrest =>
    obtain ⟨-, -, hinner, -, hrest⟩ := hblock
    obtain ⟨hkey, hvalue, hinside, hbehind⟩ := holds_nested h
    obtain ⟨bound, rfl⟩ : ∃ n, bound = n + 1 := ⟨bound - 1, by omega⟩
    rw [size] at hbound
    rw [pairs, List.map_cons, entries, ihrest hrest hbehind (by omega)]
    dsimp only
    rw [Document.scalar_of_text hkey, Document.tree, hvalue]
    dsimp only
    have hsmaller : inner.size < bound := by omega
    rw [entriesOf_pairs hinner hinside, List.map_map, ← ihinner hinner hinside hsmaller]
    rfl

end Block

end DartLayers.Yaml
