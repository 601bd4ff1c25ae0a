import DartLayers.Proofs.Yaml.Scanning

/-!
# DartLayers — the nodes of a text in block style

The tokens of a text in block style are put together to nodes in the order in which they stand: the
node of a mapping first, then for each of its entries the node of the key and the nodes of the value.

* **`Block.reads_blockPairs`** — entries are put together to their nodes.
* **`BlockText.graph`**, **`BlockText.readGraph_chars`** — the nodes of a text.
-/

namespace DartLayers.Yaml

open Composing

section

variable {rest : List Token} {graph : Graph} {anchors : List (List Char × Nat)}
  {handles : List (List Char × List Char)}

theorem reads_scalarNode (block flat isPlain : Bool) (text : List Char) {bound : Nat} (hbound : 0 < bound) :
    Reads (node block flat bound) ⟨.scalar isPlain text :: rest, graph, anchors, handles⟩ graph.size
      ⟨rest, graph.push (.scalar (scalarTag none isPlain text) text), anchors, handles⟩ := by
  obtain ⟨bound, rfl⟩ : ∃ n, bound = n + 1 := ⟨bound - 1, by omega⟩
  rw [node]
  rfl

/-- A node is replaced behind which others have been added. -/
theorem setIfInBounds_append (graph nodes : Graph) (node other : Node) :
    (graph.push node ++ nodes).setIfInBounds graph.size other = graph.push other ++ nodes := by
  apply Array.toList_inj.1
  simp

/-- A mapping has its place in front of the nodes of its pairs. -/
theorem reads_mappingNode (flat : Bool) {bound place : Nat} (hplace : graph.size = place)
    {more : List Token} {pairs : List (Nat × Nat)} {nodes : Graph}
    (hpairs : Reads (blockPairs bound) ⟨rest, graph.push (.mapping .mapping []), anchors, handles⟩ pairs
      ⟨more, graph.push (.mapping .mapping []) ++ nodes, anchors, handles⟩) :
    Reads (node true flat (bound + 1)) ⟨.blockMapping :: rest, graph, anchors, handles⟩ place
      ⟨more, graph.push (.mapping .mapping pairs) ++ nodes, anchors, handles⟩ := by
  subst hplace
  have hnode : node true flat (bound + 1) ⟨.blockMapping :: rest, graph, anchors, handles⟩ =
      addCollection none (Properties.mapping {}) (blockPairs bound)
        ⟨rest, graph, anchors, handles⟩ := by
    rw [node]
    rfl
  rw [Reads, hnode, ← setIfInBounds_append _ _ (.mapping .mapping [])]
  have hadd : Reads (add none (.mapping .mapping [])) ⟨rest, graph, anchors, handles⟩ graph.size
      ⟨rest, graph.push (.mapping .mapping []), anchors, handles⟩ := rfl
  exact hadd.bind (hpairs.bind rfl)

/-- The key of a pair is read in front of its value. -/
theorem reads_blockPairs_cons {key : List Char} {bound place : Nat} {pairs : List (Nat × Nat)}
    {middle after : Composer} (hbound : 0 < bound)
    (hvalue : Reads (blockValue bound)
      ⟨rest, graph.push (.scalar (.ofPlain key) key), anchors, handles⟩ place middle)
    (hpairs : Reads (blockPairs bound) middle pairs after) :
    Reads (blockPairs (bound + 1)) ⟨.key :: .scalar true key :: rest, graph, anchors, handles⟩
      ((graph.size, place) :: pairs) after := by
  have hkey : Reads (node true true bound) ⟨.scalar true key :: rest, graph, anchors, handles⟩ graph.size
      ⟨rest, graph.push (.scalar (.ofPlain key) key), anchors, handles⟩ :=
    reads_scalarNode true true true key hbound
  have hnext : blockPairs (bound + 1) ⟨.key :: .scalar true key :: rest, graph, anchors, handles⟩ =
      (do
        let key ← node true true bound
        let value ← blockValue bound
        return (key, value) :: (← blockPairs bound) : Composing (List (Nat × Nat)))
          ⟨.scalar true key :: rest, graph, anchors, handles⟩ := by
    rw [blockPairs]
    rfl
  rw [Reads, hnext]
  exact hkey.bind (hvalue.bind (hpairs.bind (.pure _)))

/-- The pairs end with their mapping. -/
theorem reads_blockPairs_nil {bound : Nat} (hbound : 0 < bound) :
    Reads (blockPairs bound) ⟨.blockEnd :: rest, graph, anchors, handles⟩ []
      ⟨rest, graph, anchors, handles⟩ := by
  obtain ⟨bound, rfl⟩ : ∃ n, bound = n + 1 := ⟨bound - 1, by omega⟩
  rw [blockPairs]
  rfl

/-- A value that does not stand on the line of its key. -/
theorem reads_blockValue_none {bound : Nat} (hbound : 0 < bound)
    (hrest : rest.head? = some .key ∨ rest.head? = some .blockEnd) :
    Reads (blockValue bound) ⟨.value :: rest, graph, anchors, handles⟩ graph.size
      ⟨rest, graph.push (.scalar .null []), anchors, handles⟩ := by
  obtain ⟨bound, rfl⟩ : ∃ n, bound = n + 1 := ⟨bound - 1, by omega⟩
  obtain ⟨more, rfl | rfl⟩ : ∃ more, rest = .key :: more ∨ rest = .blockEnd :: more := by
    cases rest with
    | nil => simp at hrest
    | cons token more => exact ⟨more, by simpa using hrest⟩
  all_goals
    rw [blockValue]
    rfl

/-- A value that is a node. -/
theorem reads_blockValue_some {bound place : Nat} {token : Token} {after : Composer}
    (htoken : (∃ isPlain text, token = .scalar isPlain text) ∨ token = .blockMapping)
    (hnode : Reads (node true true bound) ⟨token :: rest, graph, anchors, handles⟩ place after) :
    Reads (blockValue (bound + 1)) ⟨.value :: token :: rest, graph, anchors, handles⟩ place after := by
  have hvalue : blockValue (bound + 1) ⟨.value :: token :: rest, graph, anchors, handles⟩ =
      node true true bound ⟨token :: rest, graph, anchors, handles⟩ := by
    obtain ⟨isPlain, text, rfl⟩ | rfl := htoken
    all_goals
      rw [blockValue]
      rfl
  rw [Reads, hvalue]
  exact hnode

namespace Block

theorem head?_tokens (block : Block) (rest : List Token) :
    (block.tokens ++ .blockEnd :: rest).head? = some .key ∨
      (block.tokens ++ .blockEnd :: rest).head? = some .blockEnd := by
  cases block with
  | nil => exact .inr rfl
  | flat head value rest => exact .inl rfl
  | nested head depth inner rest => exact .inl rfl

theorem length_nodes (block : Block) (place : Nat) : (block.nodes place).length = block.size := by
  induction block generalizing place with
  | nil => rfl
  | flat head value rest ih => simp [nodes, size, ih]
  | nested head depth inner rest ihinner ihrest =>
    simp only [nodes, size, List.length_cons, List.length_append, ihinner, ihrest]

theorem push_push_append (graph : Graph) (first second : Node) (nodes : List Node) :
    (graph.push first).push second ++ nodes.toArray = graph ++ (first :: second :: nodes).toArray := by
  simp

variable {place : Nat}

/-- The value on the line of a key, or what stands for it. -/
theorem reads_blockValue (value : Option (Nat × Leaf)) {bound : Nat} (hbound : 1 < bound)
    (hplace : graph.size = place)
    (hrest : rest.head? = some .key ∨ rest.head? = some .blockEnd) :
    Reads (blockValue bound) ⟨.value :: (valueTokens value ++ rest), graph, anchors, handles⟩ place
      ⟨rest, graph.push (valueNode value), anchors, handles⟩ := by
  subst hplace
  cases value with
  | none => exact reads_blockValue_none (by omega) hrest
  | some entry =>
    obtain ⟨gap, leaf⟩ := entry
    obtain ⟨bound, rfl⟩ : ∃ n, bound = n + 1 := ⟨bound - 1, by omega⟩
    exact reads_blockValue_some (.inl ⟨_, _, rfl⟩)
      (reads_scalarNode true true leaf.isPlain leaf.text (by omega))

/-- **Entries are composed** of their nodes, which come behind those that are there already. -/
theorem reads_blockPairs {block : Block} (hblock : block.IsWritten) {bound : Nat}
    (hbound : block.tokens.length < bound) (hplace : graph.size = place) :
    Reads (blockPairs bound) ⟨block.tokens ++ .blockEnd :: rest, graph, anchors, handles⟩
      (block.pairs place) ⟨rest, graph ++ (block.nodes place).toArray, anchors, handles⟩ := by
  -- The places of the nodes are those of the graph so far, so the graph grows along the entries.
  induction block generalizing rest graph place bound with
  | nil => simpa [tokens, nodes, pairs] using reads_blockPairs_nil hbound
  | flat head value others ih =>
    obtain ⟨⟨-, hkey, -⟩, -, -, hothers⟩ := hblock
    have htext := hkey.isText
    obtain ⟨bound, rfl⟩ : ∃ n, bound = n + 1 := ⟨bound - 1, by omega⟩
    have hfew : others.tokens.length < bound ∧ 1 < bound := by
      simp only [tokens, List.length_append, List.length_cons, List.length_nil] at hbound
      omega
    -- The key has the next place, and its value the one behind.
    have hvalue : Reads (blockValue bound)
        ⟨.value :: (valueTokens value ++ (others.tokens ++ .blockEnd :: rest)),
          graph.push (.scalar (.ofPlain head.key) head.key), anchors, handles⟩ (place + 1)
        ⟨others.tokens ++ .blockEnd :: rest,
          (graph.push (.scalar (.ofPlain head.key) head.key)).push (valueNode value), anchors,
          handles⟩ :=
      reads_blockValue value hfew.2 (by simp [hplace]) (head?_tokens others rest)
    have hsize : ((graph.push (.scalar (.ofPlain head.key) head.key)).push (valueNode value)).size =
        place + 2 := by
      simp [hplace]
    have hpairs := reads_blockPairs_cons (Nat.lt_of_succ_lt hfew.2) hvalue (ih hothers hfew.1 hsize)
    rw [push_push_append, htext, hplace] at hpairs
    simpa [tokens, pairs, nodes] using hpairs
  | nested head depth inner others ihinner ihothers =>
    obtain ⟨⟨-, hkey, -⟩, -, hinner, -, hothers⟩ := hblock
    have htext := hkey.isText
    obtain ⟨bound, rfl⟩ : ∃ n, bound = n + 4 := ⟨bound - 4, by
      simp only [tokens, List.length_append, List.length_cons, List.length_nil] at hbound
      omega⟩
    have hfew : inner.tokens.length < bound + 1 ∧ others.tokens.length < bound + 3 := by
      simp only [tokens, List.length_append, List.length_cons, List.length_nil] at hbound
      omega
    have hsize : ((graph.push (.scalar (.ofPlain head.key) head.key)).push
        (.mapping .mapping [])).size = place + 2 := by
      simp [hplace]
    -- The node of an inner mapping stands in front of the nodes of its entries.
    have hvalue : Reads (blockValue (bound + 3)) ⟨.value :: .blockMapping ::
        (inner.tokens ++ .blockEnd :: (others.tokens ++ .blockEnd :: rest)),
          graph.push (.scalar (.ofPlain head.key) head.key), anchors, handles⟩ (place + 1)
        ⟨others.tokens ++ .blockEnd :: rest, (graph.push (.scalar (.ofPlain head.key) head.key)).push
          (.mapping .mapping (inner.pairs (place + 2))) ++ (inner.nodes (place + 2)).toArray, anchors,
          handles⟩ :=
      reads_blockValue_some (.inr rfl)
        (reads_mappingNode true (by simp [hplace]) (ihinner hinner hfew.1 hsize))
    have hmore : ((graph.push (.scalar (.ofPlain head.key) head.key)).push
        (.mapping .mapping (inner.pairs (place + 2))) ++
          (inner.nodes (place + 2)).toArray : Graph).size = place + 2 + inner.size := by
      simp only [Array.size_append, Array.size_push, hplace, List.size_toArray, length_nodes]
    have hpairs := reads_blockPairs_cons (Nat.succ_pos _) hvalue (ihothers hothers hfew.2 hmore)
    rw [htext, hplace, push_push_append] at hpairs
    simpa [tokens, pairs, nodes] using hpairs

end Block

end

/-- A document that starts with a mapping and goes to the end of the text. -/
theorem composeRoot_mapping {tokens : List Token} {graph : Graph} {root : Nat}
    {anchors : List (List Char × Nat)} {bound : Nat}
    (hbound : bound + 1 = 4 * (Token.blockMapping :: tokens).length + 8)
    (hnode : Reads (node true false (bound + 1)) ⟨.blockMapping :: tokens, #[], [], defaultHandles⟩ root
      ⟨[.endOfText], graph, anchors, defaultHandles⟩) :
    composeRoot (.blockMapping :: tokens) = .ok (some (graph, root)) := by
  have hroot : Reads (Composing.root (bound + 1)) { tokens := .blockMapping :: tokens } (some root)
      ⟨[.endOfText], graph, anchors, defaultHandles⟩ := by
    have hstart : Composing.root (bound + 1) { tokens := .blockMapping :: tokens } =
        (some <$> node true false (bound + 1)) ⟨.blockMapping :: tokens, #[], [], defaultHandles⟩ :=
      rfl
    rw [Reads, hstart]
    exact hnode.map some
  have hfinish : Reads (finish (bound + 1)) ⟨[.endOfText], graph, anchors, defaultHandles⟩ ()
      ⟨[.endOfText], graph, anchors, defaultHandles⟩ := by
    rw [Reads, finish, skipEnds]
    rfl
  have hreading : Reads (do
      let root ← Composing.root (bound + 1)
      if root.isSome then finish (bound + 1)
      return root) { tokens := .blockMapping :: tokens } (some root)
        ⟨[.endOfText], graph, anchors, defaultHandles⟩ :=
    hroot.bind (hfinish.bind (.pure _))
  simp only [composeRoot, ← hbound]
  rw [StateT.run, show _ = _ from hreading]
  rfl

namespace BlockText

variable {text : BlockText}

/-- The nodes of a document: the mapping of the whole text, and those of its entries. -/
def graph (text : BlockText) : Graph :=
  (.mapping .mapping (text.block.pairs 1) :: text.block.nodes 1).toArray

/-- **The graph of a text in block style**; there is none without entries. -/
theorem readGraph_chars (h : text.IsWritten) :
    readGraph text.chars = .ok (if text.block = .nil then none else some (text.graph, 0)) := by
  have hprintable : text.chars.all isPrintable = true := by
    rw [List.all_eq_true]
    intro c hc
    rcases isInline_chars h c hc with hinline | rfl
    · simp only [isInline, Bool.and_eq_true] at hinline
      exact hinline.1.1
    · rfl
  rw [readGraph, hprintable, if_pos rfl, scanTokens_chars h]
  split
  · rfl
  · have hbound : text.block.tokens.length < 4 * text.block.tokens.length + 19 := by omega
    have hpairs : Reads (blockPairs (4 * text.block.tokens.length + 19))
        ⟨text.block.tokens ++ .blockEnd :: [.endOfText], #[.mapping .mapping []], [], defaultHandles⟩
        (text.block.pairs 1) ⟨[.endOfText], #[.mapping .mapping []] ++ (text.block.nodes 1).toArray, [],
          defaultHandles⟩ :=
      Block.reads_blockPairs h.1 hbound rfl
    have hroot := composeRoot_mapping (by simp; omega) (reads_mappingNode false rfl hpairs)
    simpa [graph] using hroot

end BlockText

end DartLayers.Yaml
