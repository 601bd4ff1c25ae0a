import DartLayers.Schema
import Mathlib.Data.List.Basic

/-!
# DartLayers — the records of a schema and their places

A schema is a tree, and a place in it is the way down from its root: to the element of a list, or to a
field of a record. The traversal of a tree meets every record once, at its place. It meets a record
after all those that are reached through its fields, whose places continue the place of the record.

* **`part?`** — what stands at a place; **`RecordPlace`** — the places of records.
* **`nodes`** — the traversal with the places of what it meets; without them it is `records`
  (`map_snd_nodes`).
* **`mem_nodes_iff`** — the traversal meets the records of the tree, each at its place.
* **`nodes_pairwise`** — no place comes before one that continues it, and none comes twice.
* **`recordPlaces`** — the places alone: all of them (`mem_recordPlaces`), the root last.
* **`leafName?`** — the record inside the lists of a schema, and the place where it stands.
-/

namespace DartLayers.Schema

/-! ## Places -/

/-- A step from a schema to a part of it: to the element of a list, or to the field of a record that
has an index. -/
inductive Step where
  | element
  | field (index : Nat)
  deriving DecidableEq

/-- The part of a schema that some steps lead to. -/
def part? : Schema → List Step → Option Schema
  | schema, [] => some schema
  | .list element, .element :: path => element.part? path
  | .record _ fields, .field index :: path => fields[index]?.bind fun field => field.2.part? path
  | _, _ :: _ => none

/-- A place of a schema where a record stands. -/
structure RecordPlace (schema : Schema) where
  path : List Step
  record : RecordSchema
  part_eq : schema.part? path = some (.record record.name record.fields)

/-- The place of the record that a tree starts with. -/
def RecordPlace.root (name : TypeName) (fields : List (String × Schema)) :
    RecordPlace (.record name fields) where
  path := []
  record := ⟨name, fields⟩
  part_eq := rfl

/-- Steps that go on from a place start at its part. -/
theorem part?_append (schema : Schema) (path more : List Step) :
    schema.part? (path ++ more) = (schema.part? path).bind fun part => part.part? more := by
  induction path generalizing schema with
  | nil => simp [part?]
  | cons step path ih =>
    rw [List.cons_append]
    cases schema with
    | scalar kind => simp [part?]
    | list element =>
      cases step with
      | element => simp only [part?, ih]
      | field index => simp [part?]
    | record name fields =>
      cases step with
      | element => simp [part?]
      | field index =>
        simp only [part?]
        cases fields[index]? with
        | none => rfl
        | some field => simp only [Option.bind_some, ih]

/-! ## The traversal -/

mutual

/-- The records of a tree in the order of the traversal, each with its place. -/
def nodes : Schema → List (List Step × RecordSchema)
  | .scalar _ => []
  | .list element => element.nodes.map fun node => (.element :: node.1, node.2)
  | .record name fields => fieldNodes 0 fields ++ [([], ⟨name, fields⟩)]

/-- The records reached through fields, whose indices start at `first`. -/
def fieldNodes (first : Nat) : List (String × Schema) → List (List Step × RecordSchema)
  | [] => []
  | (_, value) :: rest =>
    (value.nodes.map fun node => (.field first :: node.1, node.2)) ++ fieldNodes (first + 1) rest

end

mutual

/-- The traversal with places meets the records of the tree in their order. -/
theorem map_snd_nodes : (schema : Schema) → schema.nodes.map Prod.snd = schema.records
  | .scalar _ => rfl
  | .list element => by
    have helement := map_snd_nodes element
    rw [nodes, records, ← helement, List.map_map]
    rfl
  | .record name fields => by
    have hfields := map_snd_fieldNodes 0 fields
    rw [nodes, records, ← hfields, List.map_append]
    rfl

theorem map_snd_fieldNodes (first : Nat) : (fields : List (String × Schema)) →
    (fieldNodes first fields).map Prod.snd = fieldRecords fields
  | [] => rfl
  | (_, value) :: rest => by
    have hvalue := map_snd_nodes value
    have hrest := map_snd_fieldNodes (first + 1) rest
    rw [fieldNodes, fieldRecords, ← hvalue, ← hrest, List.map_append, List.map_map]
    rfl

end

mutual

/-- **The traversal meets the records of a tree**, each at its place. -/
theorem mem_nodes_iff : (schema : Schema) → (path : List Step) → (found : RecordSchema) →
    ((path, found) ∈ schema.nodes ↔ schema.part? path = some (.record found.name found.fields))
  | .scalar _, [], _ => by simp [nodes, part?]
  | .scalar _, _ :: _, _ => by simp [nodes, part?]
  | .list _, [], _ => by simp [nodes, part?]
  | .list element, .element :: path, found => by
    have helement := mem_nodes_iff element path found
    simp [nodes, part?, helement]
  | .list _, .field _ :: _, _ => by simp [nodes, part?]
  | .record name fields, [], ⟨foundName, foundFields⟩ => by
    have hfields := mem_fieldNodes_iff 0 fields [] ⟨foundName, foundFields⟩
    simp only [nodes, part?, List.mem_append, hfields, List.mem_singleton]
    constructor
    · rintro (⟨offset, more, hpath, -⟩ | hroot)
      · cases hpath
      · cases hroot
        rfl
    · intro hroot
      cases hroot
      exact .inr rfl
  | .record name fields, .element :: path, found => by
    have hfields := mem_fieldNodes_iff 0 fields (.element :: path) found
    simp [nodes, part?, hfields]
  | .record name fields, .field index :: path, found => by
    have hfields := mem_fieldNodes_iff 0 fields (.field index :: path) found
    simp [nodes, part?, hfields]

/-- Behind a field's index stands a place of its value. -/
theorem mem_fieldNodes_iff (first : Nat) : (fields : List (String × Schema)) →
    (path : List Step) → (found : RecordSchema) →
    ((path, found) ∈ fieldNodes first fields ↔
      ∃ offset more, path = .field (first + offset) :: more ∧
        (fields[offset]?.bind fun field => field.2.part? more) =
          some (.record found.name found.fields))
  | [], _, _ => by simp [fieldNodes]
  | (key, value) :: rest, path, found => by
    have hrest := mem_fieldNodes_iff (first + 1) rest path found
    rw [fieldNodes, List.mem_append, hrest]
    constructor
    · rintro (hhere | ⟨offset, more, rfl, hpart⟩)
      · obtain ⟨⟨more, record⟩, hnode, hsame⟩ := List.mem_map.1 hhere
        cases hsame
        exact ⟨0, more, rfl, (mem_nodes_iff value more record).1 hnode⟩
      · refine ⟨offset + 1, more, ?_, hpart⟩
        rw [Nat.add_assoc, Nat.add_comm 1 offset]
    · rintro ⟨offset, more, rfl, hpart⟩
      cases offset with
      | zero =>
        left
        exact List.mem_map.2 ⟨(more, found), (mem_nodes_iff value more found).2 hpart, rfl⟩
      | succ offset =>
        right
        refine ⟨offset, more, ?_, hpart⟩
        rw [Nat.add_assoc, Nat.add_comm 1 offset]

end

mutual

/-- **No place comes before one that continues it**, and none comes twice: a record is met after those
that are reached through its fields. -/
theorem nodes_pairwise : (schema : Schema) →
    schema.nodes.Pairwise fun node later => ¬ node.1 <+: later.1
  | .scalar _ => List.Pairwise.nil
  | .list element => by
    have helement := nodes_pairwise element
    rw [nodes, List.pairwise_map]
    simpa only [List.cons_prefix_cons, true_and] using helement
  | .record name fields => by
    have hfields := fieldNodes_pairwise 0 fields
    rw [nodes, List.pairwise_append]
    refine ⟨hfields, List.pairwise_singleton _ _, ?_⟩
    -- the root comes last, and no way to a field ends before its first step
    intro node hnode later hlater
    obtain ⟨offset, more, hpath, -⟩ := (mem_fieldNodes_iff 0 fields node.1 node.2).1 hnode
    rw [List.mem_singleton.1 hlater, hpath]
    simp

theorem fieldNodes_pairwise (first : Nat) : (fields : List (String × Schema)) →
    (fieldNodes first fields).Pairwise fun node later => ¬ node.1 <+: later.1
  | [] => List.Pairwise.nil
  | (_, value) :: rest => by
    have hvalue := nodes_pairwise value
    have hrest := fieldNodes_pairwise (first + 1) rest
    rw [fieldNodes, List.pairwise_append, List.pairwise_map]
    refine ⟨?_, hrest, ?_⟩
    · simpa only [List.cons_prefix_cons, true_and] using hvalue
    · -- the ways to different fields part at once
      intro node hnode later hlater
      obtain ⟨inner, -, rfl⟩ := List.mem_map.1 hnode
      obtain ⟨offset, more, hpath, -⟩ :=
        (mem_fieldNodes_iff (first + 1) rest later.1 later.2).1 hlater
      rw [hpath, List.cons_prefix_cons, Step.field.injEq]
      omega

end

/-! ## The places of records -/

section

variable (schema : Schema)

/-- The places of the records of a tree, in the order of the traversal. -/
def recordPlaces : List (RecordPlace schema) :=
  schema.nodes.attach.map fun node =>
    ⟨node.1.1, node.1.2, (mem_nodes_iff schema node.1.1 node.1.2).1 node.2⟩

theorem map_record_recordPlaces :
    schema.recordPlaces.map RecordPlace.record = schema.records := by
  rw [← map_snd_nodes, recordPlaces, List.map_map]
  show schema.nodes.attach.map (fun node => node.1.2) = schema.nodes.map Prod.snd
  exact List.attach_map_val (f := Prod.snd)

/-- The traversal leaves out no place. -/
theorem mem_recordPlaces (place : RecordPlace schema) : place ∈ schema.recordPlaces := by
  have hnode : (place.path, place.record) ∈ schema.nodes :=
    (mem_nodes_iff schema place.path place.record).2 place.part_eq
  exact List.mem_map.2 ⟨⟨_, hnode⟩, List.mem_attach schema.nodes ⟨_, hnode⟩, rfl⟩

theorem recordPlaces_pairwise :
    schema.recordPlaces.Pairwise fun place later => ¬ place.path <+: later.path := by
  have hnodes := nodes_pairwise schema
  rw [← List.attach_map_subtype_val schema.nodes, List.pairwise_map] at hnodes
  rw [recordPlaces, List.pairwise_map]
  exact hnodes

theorem nodup_recordPlaces : schema.recordPlaces.Nodup := by
  apply (recordPlaces_pairwise schema).imp
  rintro place later hbelow rfl
  exact hbelow List.prefix_rfl

end

section

variable {schema : Schema}

/-- What is reached through a record is met before it. -/
theorem lt_of_prefix {index inner : Nat} {place below : RecordPlace schema}
    (hplace : schema.recordPlaces[index]? = some place)
    (hbelow : schema.recordPlaces[inner]? = some below)
    (hreached : place.path <+: below.path) (hne : place.path ≠ below.path) : inner < index := by
  obtain ⟨hindex, rfl⟩ := List.getElem?_eq_some_iff.1 hplace
  obtain ⟨hinner, rfl⟩ := List.getElem?_eq_some_iff.1 hbelow
  rcases Nat.lt_trichotomy inner index with hbefore | rfl | hafter
  · exact hbefore
  · exact absurd rfl hne
  · have hpairwise := List.pairwise_iff_getElem.1 (recordPlaces_pairwise schema)
    exact absurd hreached (hpairwise index inner hindex hinner hafter)

end

/-- The record that a tree starts with is met last, as every place continues its place. -/
theorem getLast?_recordPlaces (name : TypeName) (fields : List (String × Schema)) :
    (Schema.record name fields).recordPlaces.getLast? = some (.root name fields) := by
  have hpairwise := recordPlaces_pairwise (.record name fields)
  obtain ⟨before, after, hsplit⟩ :=
    List.append_of_mem (mem_recordPlaces (.record name fields) (.root name fields))
  rw [hsplit] at hpairwise ⊢
  have hafter : after = [] := by
    apply List.eq_nil_iff_forall_not_mem.2
    intro later hlater
    have hroot := (List.pairwise_cons.1 (List.pairwise_append.1 hpairwise).2.1).1 later hlater
    exact hroot (List.nil_prefix (l := later.path))
  rw [hafter, List.getLast?_concat]

/-! ## The record inside of lists -/

/-- The name of the record that a schema is made of, with any number of lists around it; a scalar is
made of none. -/
def leafName? : Schema → Option TypeName
  | .scalar _ => none
  | .list element => element.leafName?
  | .record name _ => some name

/-- The record inside of lists stands at a place. -/
theorem exists_part?_of_leafName? {name : TypeName} : {schema : Schema} →
    schema.leafName? = some name →
    ∃ path fields, schema.part? path = some (.record name fields)
  | .scalar _, h => nomatch h
  | .list element, h => by
    have helement : element.leafName? = some name := h
    obtain ⟨path, fields, hpart⟩ := exists_part?_of_leafName? helement
    exact ⟨.element :: path, fields, hpart⟩
  | .record _ fields, h => by
    cases h
    exact ⟨[], fields, rfl⟩

theorem leafName?_forLayer (layer : RecordLayer) : (schema : Schema) →
    (schema.forLayer layer).leafName? = schema.leafName?.map fun name => name.forLayer layer
  | .scalar _ => rfl
  | .list element => by
    have helement := leafName?_forLayer layer element
    rwa [forLayer, leafName?, leafName?]
  | .record _ _ => rfl

end DartLayers.Schema
