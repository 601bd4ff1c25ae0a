import DartLayers.Schema
import Mathlib.Data.List.Basic

/-!
# DartLayers — the records of a moved schema

Moving a schema to a layer changes the names of its records and nothing else: the same records are
reached in the same order, with the same keys.

* **`records_forLayer`** — the records of a moved schema are its records, moved.
* **`keys_fieldsForLayer`** — the keys stay.
* **`mem_records_of_field`** — the records of a field are records of the schema.
-/

namespace DartLayers.Schema

variable (layer : RecordLayer)

theorem fieldsForLayer_eq_map (fields : List (String × Schema)) :
    fieldsForLayer layer fields = fields.map fun field => (field.1, field.2.forLayer layer) := by
  induction fields with
  | nil => rfl
  | cons field rest ih =>
    obtain ⟨key, value⟩ := field
    simp only [fieldsForLayer, ih, List.map_cons]

@[simp] theorem keys_fieldsForLayer (fields : List (String × Schema)) :
    (fieldsForLayer layer fields).map Prod.fst = fields.map Prod.fst := by
  rw [fieldsForLayer_eq_map, List.map_map]
  rfl

mutual

/-- **The records of a moved schema**, in the same order. -/
theorem records_forLayer : (schema : Schema) →
    (schema.forLayer layer).records = schema.records.map fun record => record.forLayer layer
  | .scalar _ => rfl
  | .list element => by
    have helement := records_forLayer element
    simpa only [forLayer, records] using helement
  | .record name fields => by
    have hfields := fieldRecords_fieldsForLayer fields
    simp only [forLayer, records, hfields, List.map_append, List.map_cons, List.map_nil,
      RecordSchema.forLayer]

theorem fieldRecords_fieldsForLayer : (fields : List (String × Schema)) →
    fieldRecords (fieldsForLayer layer fields) =
      (fieldRecords fields).map fun record => record.forLayer layer
  | [] => rfl
  | (_, value) :: rest => by
    have hvalue := records_forLayer value
    have hrest := fieldRecords_fieldsForLayer rest
    simp only [fieldsForLayer, fieldRecords, hvalue, hrest, List.map_append]

end

theorem mem_fieldRecords {fields : List (String × Schema)} {field : String × Schema}
    {inner : RecordSchema} (hfield : field ∈ fields) (hinner : inner ∈ field.2.records) :
    inner ∈ fieldRecords fields := by
  induction fields with
  | nil => cases hfield
  | cons first rest ih =>
    rw [fieldRecords, List.mem_append]
    rcases List.mem_cons.1 hfield with rfl | hrest
    · exact .inl hinner
    · exact .inr (ih hrest)

mutual

/-- **What a record is made of** comes before it: the records reached through its fields are records
of the schema. -/
theorem mem_records_of_field : {schema : Schema} → {record inner : RecordSchema} →
    record ∈ schema.records → {field : String × Schema} → field ∈ record.fields →
    inner ∈ field.2.records → inner ∈ schema.records
  | .scalar _, _, _, hrecord, _, _, _ => nomatch hrecord
  | .list element, found, inner, hrecord, _, hfield, hinner => by
    have helement : found ∈ element.records := hrecord
    show inner ∈ element.records
    exact mem_records_of_field helement hfield hinner
  | .record name fields, _, _, hrecord, _, hfield, hinner => by
    rw [records, List.mem_append, List.mem_singleton] at hrecord ⊢
    rcases hrecord with hreached | rfl
    · exact .inl (mem_fieldRecords_of_field hreached hfield hinner)
    · exact .inl (mem_fieldRecords hfield hinner)

theorem mem_fieldRecords_of_field : {fields : List (String × Schema)} →
    {record inner : RecordSchema} → record ∈ fieldRecords fields → {field : String × Schema} →
    field ∈ record.fields → inner ∈ field.2.records → inner ∈ fieldRecords fields
  | [], _, _, hrecord, _, _, _ => nomatch hrecord
  | (_, value) :: rest, _, _, hrecord, _, hfield, hinner => by
    rw [fieldRecords, List.mem_append] at hrecord ⊢
    rcases hrecord with hvalue | hrest
    · exact .inl (mem_records_of_field hvalue hfield hinner)
    · exact .inr (mem_fieldRecords_of_field hrest hfield hinner)

end

end DartLayers.Schema
