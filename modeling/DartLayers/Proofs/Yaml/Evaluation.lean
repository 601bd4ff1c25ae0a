import DartLayers.Proofs.Yaml.Passage
import DartLayers.Yaml.Document

/-!
# DartLayers — evaluating graphs without merging

In a graph whose scalars all have values and whose mappings have texts for keys nothing is merged and
nothing is refused: every node can be looked at, in any order, and the graph stays as it is.

* **`Graph.IsCalm`** — such a graph.
* **`Evaluating.Keeps`** — a step that comes through and leaves the graph.
* **`readDocument_of_isCalm`** — the graph becomes a document as it is.
-/

namespace DartLayers.Yaml

/-- A node that has a value whatever the other nodes hold, as long as its keys are texts. -/
def Node.IsCalm (graph : Graph) : Node → Prop
  | .scalar tag text => ∃ value, Scalar.read tag text = .ok value
  | .mapping tag pairs =>
    tag = .mapping ∧ ∀ pair ∈ pairs, ∃ text, graph.node pair.1 = .scalar .text text
  | .sequence _ _ => False

/-- A graph whose nodes all have values. -/
def Graph.IsCalm (graph : Graph) : Prop :=
  ∀ place, (graph.node place).IsCalm graph

namespace Evaluating

variable {graph : Graph}

/-- The graph has not changed, and only mappings are put off. -/
structure IsCalm (graph : Graph) (evaluation : Evaluation) : Prop where
  graph_eq : evaluation.graph = graph
  pending : ∀ place ∈ evaluation.pending, ∃ pairs, graph.node place = .mapping .mapping pairs

/-- A step comes through and leaves the graph. -/
def Keeps (graph : Graph) (step : Evaluating Unit) : Prop :=
  ∀ evaluation, IsCalm graph evaluation →
    ∃ after, Reads step evaluation () after ∧ IsCalm graph after

theorem Keeps.bind {first : Evaluating Unit} {next : Unit → Evaluating Unit} (h : Keeps graph first)
    (hnext : Keeps graph (next ())) : Keeps graph (first >>= next) := by
  intro evaluation hcalm
  obtain ⟨middle, hfirst, hmiddle⟩ := h evaluation hcalm
  obtain ⟨after, hsecond, hafter⟩ := hnext middle hmiddle
  exact ⟨after, hfirst.bind hsecond, hafter⟩

theorem keeps_return : Keeps graph (pure ()) :=
  fun evaluation hcalm => ⟨evaluation, .pure (), hcalm⟩

theorem keeps_forM {α : Type} {items : List α} {step : α → Evaluating Unit}
    (h : ∀ item ∈ items, Keeps graph (step item)) : Keeps graph (items.forM step) := by
  induction items with
  | nil => exact keeps_return
  | cons item items ih =>
    rw [List.forall_mem_cons] at h
    exact h.1.bind (ih h.2)

/-- A collection is not read as a scalar. -/
theorem isCollection_of_read {tag : Tag} {text : List Char} {value : Scalar}
    (h : Scalar.read tag text = .ok value) : isCollection tag = false := by
  have hrefused : isCollection tag = true → Scalar.read tag text = .error .malformed := by
    cases tag <;> first | exact fun _ => rfl | exact fun hfalse => absurd hfalse Bool.false_ne_true
  rw [← Bool.not_eq_true]
  intro hcollection
  rw [hrefused hcollection] at h
  cases h

/-- A scalar has a value. -/
theorem scalarValue_scalar {place : Nat} {tag : Tag} {text : List Char}
    (hnode : graph.node place = .scalar tag text) :
    scalarValue graph place = Scalar.read tag text := by
  rw [scalarValue]
  simp only [scalarText, hnode]
  rfl

theorem reads_lift {α : Type} {value : α} {computed : Except Fault α} (h : computed = .ok value)
    (evaluation : Evaluation) :
    Reads (liftM computed : Evaluating α) evaluation value evaluation := by
  subst h
  rfl

/-- Any node can be looked at. -/
theorem keeps_visit (hgraph : graph.IsCalm) (place : Nat) : Keeps graph (visit place) := by
  rintro ⟨found, visited, pending⟩ ⟨hfound, hpending⟩
  obtain rfl : graph = found := hfound.symm
  rw [visit]
  by_cases hvisited : visited.getD place false = true
  · refine ⟨_, reads_get.bind ?_, ⟨rfl, hpending⟩⟩
    rw [if_pos hvisited]
    exact .pure _
  · have hnode := hgraph place
    cases hcase : graph.node place with
    | scalar tag text =>
      rw [hcase] at hnode
      obtain ⟨value, hread⟩ := hnode
      have hvalue := (scalarValue_scalar hcase).trans hread
      refine ⟨⟨graph, visited.setIfInBounds place true, pending⟩, reads_get.bind ?_, ⟨rfl, hpending⟩⟩
      rw [if_neg hvisited, hcase, Node.tag, isCollection_of_read hread, if_neg Bool.false_ne_true]
      exact (reads_lift hvalue _).discard.bind rfl
    | mapping tag pairs =>
      rw [hcase] at hnode
      obtain ⟨rfl, -⟩ := hnode
      refine ⟨⟨graph, visited.setIfInBounds place true, place :: pending⟩, reads_get.bind ?_,
        ⟨rfl, ?_⟩⟩
      · rw [if_neg hvisited, hcase]
        rfl
      · rw [List.forall_mem_cons]
        exact ⟨⟨pairs, hcase⟩, hpending⟩
    | sequence tag items =>
      rw [hcase] at hnode
      exact hnode.elim

theorem reads_node {evaluation : Evaluation} (h : IsCalm graph evaluation) (place : Nat) :
    Reads (node place) evaluation (graph.node place) evaluation := by
  rw [← h.graph_eq]
  rfl

/-- Texts can be keys. -/
theorem keeps_visitPairs (hgraph : graph.IsCalm) {pairs : List (Nat × Nat)}
    (hkeys : ∀ pair ∈ pairs, ∃ text, graph.node pair.1 = .scalar .text text) :
    Keeps graph (visitPairs pairs) := by
  induction pairs with
  | nil => exact keeps_return
  | cons pair pairs ih =>
    obtain ⟨key, value⟩ := pair
    rw [List.forall_mem_cons] at hkeys
    obtain ⟨⟨text, hkey⟩, hkeys⟩ := hkeys
    refine (keeps_visit hgraph key).bind fun evaluation hcalm => ?_
    obtain ⟨middle, hvalue, hmiddle⟩ := keeps_visit hgraph value evaluation hcalm
    obtain ⟨after, hpairs, hafter⟩ := ih hkeys middle hmiddle
    refine ⟨after, (reads_node hcalm key).bind ?_, hafter⟩
    rw [hkey]
    exact hvalue.bind hpairs

theorem reads_pairs {evaluation : Evaluation} (h : IsCalm graph evaluation) {place : Nat}
    {pairs : List (Nat × Nat)} (hnode : graph.node place = .mapping .mapping pairs) :
    Reads (Evaluating.pairs place) evaluation pairs evaluation := by
  refine (reads_node h place).bind ?_
  rw [hnode]
  exact .pure _

/-- Nothing is merged where all keys are texts. -/
theorem reads_mergeFrom {place index bound : Nat} {pairs : List (Nat × Nat)} {evaluation : Evaluation}
    (hcalm : IsCalm graph evaluation) (hnode : graph.node place = .mapping .mapping pairs)
    (hkeys : ∀ pair ∈ pairs, ∃ text, graph.node pair.1 = .scalar .text text)
    (hindex : index ≤ pairs.length) (hbound : pairs.length < index + bound) :
    Reads (mergeFrom place bound index []) evaluation () evaluation := by
  induction bound generalizing index with
  | zero => omega
  | succ bound ih =>
    rw [mergeFrom]
    refine (reads_pairs hcalm hnode).bind ?_
    cases hpair : pairs[index]? with
    | none => exact .pure _
    | some pair =>
      obtain ⟨text, hkey⟩ := hkeys pair (List.mem_of_getElem? hpair)
      refine (reads_node hcalm pair.1).bind ?_
      rw [hkey]
      exact ih (List.getElem?_eq_some_iff.1 hpair).1 (by omega)

theorem keeps_visitInside (hgraph : graph.IsCalm) {place : Nat} {pairs : List (Nat × Nat)}
    (hnode : graph.node place = .mapping .mapping pairs) : Keeps graph (visitInside place) := by
  intro evaluation hcalm
  have hkeys := hgraph place
  rw [hnode] at hkeys
  obtain ⟨after, hpairs, hafter⟩ := keeps_visitPairs hgraph hkeys.2 evaluation hcalm
  refine ⟨after, (reads_node hcalm place).bind ?_, hafter⟩
  rw [hnode]
  have hbound : pairs.length < 0 + (mergeBound + pairs.length) := by
    rw [mergeBound]
    omega
  have hmerge := reads_mergeFrom hcalm hnode hkeys.2 (Nat.zero_le _) hbound
  exact (reads_pairs hcalm hnode).bind (hmerge.bind ((reads_pairs hcalm hnode).bind hpairs))

/-- All nodes that have been put off can be looked at. -/
theorem keeps_visitLevels (hgraph : graph.IsCalm) (bound : Nat) : Keeps graph (visitLevels bound) := by
  induction bound with
  | zero => exact keeps_return
  | succ bound ih =>
    intro evaluation hcalm
    rw [visitLevels]
    by_cases hnone : evaluation.pending.isEmpty = true
    · refine ⟨evaluation, reads_get.bind ?_, hcalm⟩
      rw [if_pos hnone]
      exact .pure _
    · have hlevel : Keeps graph (evaluation.pending.reverse.forM visitInside) :=
        keeps_forM fun place hplace => by
          obtain ⟨pairs, hnode⟩ := hcalm.pending place (List.mem_reverse.1 hplace)
          exact keeps_visitInside hgraph hnode
      obtain ⟨middle, hfirst, hmiddle⟩ := hlevel { evaluation with pending := [] }
        ⟨hcalm.graph_eq, by rintro place ⟨⟩⟩
      obtain ⟨after, hothers, hafter⟩ := ih middle hmiddle
      refine ⟨after, reads_get.bind ?_, hafter⟩
      rw [if_neg hnone]
      have hset : Reads (set { evaluation with pending := [] } : Evaluating PUnit) evaluation ()
          { evaluation with pending := [] } := rfl
      exact hset.bind (hfirst.bind hothers)

end Evaluating

/-- **A graph without merging becomes a document as it is.** -/
theorem readDocument_of_isCalm {text : String} {graph : Graph} {root : Nat}
    (hread : readGraph text.toList = .ok (some (graph, root))) (hgraph : graph.IsCalm) :
    readDocument text = .ok (some ⟨graph, root⟩) := by
  obtain ⟨middle, hroot, hmiddle⟩ := Evaluating.keeps_visit hgraph root
    { graph, visited := Array.replicate graph.size false } ⟨rfl, by rintro place ⟨⟩⟩
  obtain ⟨after, hlevels, hafter⟩ :=
    Evaluating.keeps_visitLevels hgraph (graph.size + 1) middle hmiddle
  have hreads : Reads (do
      Evaluating.visit root
      Evaluating.visitLevels (graph.size + 1)) { graph, visited := Array.replicate graph.size false } ()
        after := hroot.bind hlevels
  rw [Reads] at hreads
  rw [readDocument, hread]
  simp only [Bind.bind, Except.bind, StateT.run] at hreads ⊢
  rw [hreads]
  simp only [hafter.graph_eq]
  rfl

end DartLayers.Yaml
