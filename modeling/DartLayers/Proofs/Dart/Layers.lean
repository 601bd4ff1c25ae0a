import DartLayers.Dart.RecordClass
import DartLayers.Proofs.Dart.Identifiers
import DartLayers.Proofs.Schema.Records
import Mathlib.Data.List.Forall2

/-!
# DartLayers — the two record layers

The entity classes and the model classes of a payload are built by two walks over two moved copies
of one schema. The walks agree class by class: a model extends the entity at its place and has the
same fields, their types moved from one layer to the other.

* **`RecordClass.Mirrors`** — what a model shares with its entity, and where they differ.
* **`recordClasses_mirror`** — the classes of the layers, one by one.
-/

namespace DartLayers.Dart

/-! ## Names and types of fields -/

/-- A field of a schema has the type of its value, in the layer of the schema. -/
theorem DartType.ofField_forLayer (layer : RecordLayer) (schema : Schema) :
    DartType.ofField (schema.forLayer layer) = (DartType.ofField schema).forLayer layer := by
  cases schema with
  | scalar | record => rfl
  | list element => exact DartType.ofSchema_forLayer layer (.list element)

theorem DartType.forLayer_forLayer (first second : RecordLayer) (type : DartType) :
    (type.forLayer first).forLayer second = type.forLayer second := by
  induction type with
  | scalar | record => rfl
  | list element ih => rw [forLayer, forLayer, ih, ← forLayer]
  | nullable type ih => rw [forLayer, forLayer, ih, ← forLayer]

namespace RecordClass

def keys (record : RecordClass) : List String :=
  record.fields.map FieldDeclaration.key

def types (record : RecordClass) : List DartType :=
  record.fields.map FieldDeclaration.type

section

variable (decoders : Bool) (fields : List (String × Schema))

-- The names are as many as the fields, so pairing them drops neither a field nor a name.
theorem length_fieldIdentifiers :
    (fieldIdentifiers (fields.map Prod.fst)).length = fields.length := by
  rw [fieldIdentifiers, length_identifiersFrom, List.length_map]

theorem keys_fieldsOf :
    (fieldsOf decoders fields).map FieldDeclaration.key = fields.map Prod.fst := by
  have hlength := length_fieldIdentifiers fields
  calc (fieldsOf decoders fields).map FieldDeclaration.key
      = ((fields.zip (fieldIdentifiers (fields.map Prod.fst))).map Prod.fst).map Prod.fst := by
        simp only [fieldsOf, List.map_map]
        rfl
    _ = fields.map Prod.fst := by rw [List.map_fst_zip (Nat.le_of_eq hlength.symm)]

theorem identifiers_fieldsOf :
    (fieldsOf decoders fields).map FieldDeclaration.identifier =
      fieldIdentifiers (fields.map Prod.fst) := by
  have hlength := length_fieldIdentifiers fields
  calc (fieldsOf decoders fields).map FieldDeclaration.identifier
      = (fields.zip (fieldIdentifiers (fields.map Prod.fst))).map Prod.snd := by
        simp only [fieldsOf, List.map_map]
        rfl
    _ = fieldIdentifiers (fields.map Prod.fst) := List.map_snd_zip (Nat.le_of_eq hlength)

theorem types_fieldsOf :
    (fieldsOf decoders fields).map FieldDeclaration.type =
      fields.map fun field => DartType.ofField field.2 := by
  have hlength := length_fieldIdentifiers fields
  calc (fieldsOf decoders fields).map FieldDeclaration.type
      = ((fields.zip (fieldIdentifiers (fields.map Prod.fst))).map Prod.fst).map
          fun field => DartType.ofField field.2 := by
        simp only [fieldsOf, List.map_map]
        rfl
    _ = fields.map fun field => DartType.ofField field.2 := by
        rw [List.map_fst_zip (Nat.le_of_eq hlength.symm)]

theorem decoding_fieldsOf {field : FieldDeclaration} (h : field ∈ fieldsOf decoders fields) :
    field.decoding.isSome = decoders := by
  obtain ⟨⟨⟨key, value⟩, identifier⟩, -, rfl⟩ := List.mem_map.1 h
  cases decoders <;> rfl

end

/-! ## A model and its entity -/

/-- A model mirrors an entity: it has the entity for its base, and the same fields with their types
in the other layer; it alone reads its fields out of a payload. -/
structure Mirrors (entity model : RecordClass) : Prop where
  entity_base : entity.base = none
  model_base : model.base = some entity.name
  entity_layer : entity.name.layer = .entity
  model_name : model.name = entity.name.forLayer .model
  keys : model.keys = entity.keys
  identifiers : model.identifiers = entity.identifiers
  entity_types : entity.types.map (DartType.forLayer .entity) = entity.types
  model_types : model.types = entity.types.map (DartType.forLayer .model)
  entity_reads : ∀ field ∈ entity.fields, field.decoding = none
  model_reads : ∀ field ∈ model.fields, field.decoding ≠ none

theorem types_moved (layer : RecordLayer) (decoders : Bool) (record : RecordSchema) :
    (ofRecord layer decoders (record.forLayer layer)).types =
      record.fields.map fun field => (DartType.ofField field.2).forLayer layer := by
  simp only [types, ofRecord, RecordSchema.forLayer, types_fieldsOf, Schema.fieldsForLayer_eq_map,
    List.map_map]
  refine List.map_congr_left fun field _ => ?_
  exact DartType.ofField_forLayer layer field.2

/-- The two classes of one record. -/
theorem mirrors_of_record (record : RecordSchema) :
    Mirrors (ofRecord .entity false (record.forLayer .entity))
      (ofRecord .model true (record.forLayer .model)) where
  entity_base := rfl
  model_base := rfl
  entity_layer := rfl
  model_name := rfl
  keys := by
    simp only [RecordClass.keys, ofRecord, RecordSchema.forLayer, keys_fieldsOf,
      Schema.keys_fieldsForLayer]
  identifiers := by
    simp only [RecordClass.identifiers, ofRecord, RecordSchema.forLayer, identifiers_fieldsOf,
      Schema.keys_fieldsForLayer]
  entity_types := by
    rw [types_moved, List.map_map]
    refine List.map_congr_left fun field _ => ?_
    exact DartType.forLayer_forLayer .entity .entity _
  model_types := by
    rw [types_moved, types_moved, List.map_map]
    refine List.map_congr_left fun field _ => ?_
    exact (DartType.forLayer_forLayer .entity .model _).symm
  entity_reads := fun field hfield => by
    have hnone := decoding_fieldsOf false _ hfield
    simpa using hnone
  model_reads := fun field hfield => by
    have hsome := decoding_fieldsOf true _ hfield
    simpa [Option.isSome_iff_ne_none] using hsome

end RecordClass

/-- **The models of a payload mirror its entities**, class by class and in the same order, whatever
the names, the nesting and the keys of its schema. -/
theorem recordClasses_mirror (root : Schema) :
    List.Forall₂ RecordClass.Mirrors (recordClasses root .entity false)
      (recordClasses root .model true) := by
  -- Both walks see the records of the unmoved schema, each moved to its layer.
  have hclasses : ∀ layer decoders, recordClasses root layer decoders =
      root.records.map fun record => RecordClass.ofRecord layer decoders (record.forLayer layer) := by
    intro layer decoders
    rw [recordClasses, Schema.records_forLayer, List.map_map]
    rfl
  rw [hclasses, hclasses, List.forall₂_map_left_iff, List.forall₂_map_right_iff, List.forall₂_same]
  intro record _
  exact RecordClass.mirrors_of_record record

end DartLayers.Dart
