import DartLayers.Proofs.Schema.Records
import DartLayers.Proofs.Schema.Skeleton

/-!
# DartLayers — schemas in another layer

A schema is moved to a layer by exchanging the tags of its names. Whatever is done with schemas can be
done before the move or after it: a schema that is inferred for one layer and moved to another one is
the schema inferred for that one, the last of two moves counts, and the records of a moved schema are
its moved records.

* **`forLayer_schema`** — the schema of a skeleton, moved; inference goes by way of the skeleton.
* **`forLayer_forLayer`** — two moves.
* **`skeleton_forLayer`** — the keys and the shape stay.
* **`forLayer_commutes`** — a move commutes with inference, with a move and with the traversal.
-/

namespace DartLayers.Schema

/-! ## One move -/

section

variable (feature : String) (first second : RecordLayer)

-- The path grows on the way down, so both inductions are for all paths.
mutual

/-- The schema of a skeleton for one layer, moved to another, is its schema for the other. -/
theorem forLayer_schema (path : List String) : (skeleton : Skeleton) →
    (skeleton.schema feature first path).forLayer second = skeleton.schema feature second path
  | .scalar _ => rfl
  | .list element => by
    have helement := forLayer_schema path element
    simp only [Skeleton.schema, forLayer, helement]
  | .object members => by
    have hmembers := fieldsForLayer_memberSchemas path members
    simp only [Skeleton.schema, forLayer, hmembers]
    -- the name of a record comes from the path, its tag from the layer alone
    rfl

theorem fieldsForLayer_memberSchemas (path : List String) : (members : List (String × Skeleton)) →
    fieldsForLayer second (Skeleton.memberSchemas feature first path members) =
      Skeleton.memberSchemas feature second path members
  | [] => rfl
  | (key, value) :: rest => by
    have hvalue := forLayer_schema (path ++ [key]) value
    have hrest := fieldsForLayer_memberSchemas path rest
    simp only [Skeleton.memberSchemas, fieldsForLayer, hvalue, hrest]

end

/-- The schema of a sample for one layer, moved to another, is its schema for the other. -/
theorem forLayer_infer (path : List String) (value : Json) :
    (infer feature first path value).forLayer second = infer feature second path value := by
  rw [infer_eq_schema, infer_eq_schema]
  exact forLayer_schema feature first second path value.skeleton

end

section

variable (layer : RecordLayer)

mutual

/-- A move keeps the keys and the shape of a schema. -/
theorem skeleton_forLayer : (schema : Schema) →
    (schema.forLayer layer).skeleton = schema.skeleton
  | .scalar _ => rfl
  | .list element => by
    have helement := skeleton_forLayer element
    simp only [forLayer, skeleton, helement]
  | .record _ fields => by
    have hfields := fieldSkeletons_fieldsForLayer fields
    simp only [forLayer, skeleton, hfields]

theorem fieldSkeletons_fieldsForLayer : (fields : List (String × Schema)) →
    fieldSkeletons (fieldsForLayer layer fields) = fieldSkeletons fields
  | [] => rfl
  | (_, value) :: rest => by
    have hvalue := skeleton_forLayer value
    have hrest := fieldSkeletons_fieldsForLayer rest
    simp only [fieldsForLayer, fieldSkeletons, hvalue, hrest]

end

/-- A move keeps the keys of a record. -/
theorem keys_forLayer (record : RecordSchema) : (record.forLayer layer).keys = record.keys :=
  keys_fieldsForLayer layer record.fields

end

/-! ## Two moves -/

section

variable (first second : RecordLayer)

mutual

/-- Of two moves the last one counts. -/
theorem forLayer_forLayer : (schema : Schema) →
    (schema.forLayer first).forLayer second = schema.forLayer second
  | .scalar _ => rfl
  | .list element => by
    have helement := forLayer_forLayer element
    simp only [forLayer, helement]
  | .record name fields => by
    have hfields := fieldsForLayer_fieldsForLayer fields
    simp only [forLayer, TypeName.forLayer_forLayer, hfields]

theorem fieldsForLayer_fieldsForLayer : (fields : List (String × Schema)) →
    fieldsForLayer second (fieldsForLayer first fields) = fieldsForLayer second fields
  | [] => rfl
  | (_, value) :: rest => by
    have hvalue := forLayer_forLayer value
    have hrest := fieldsForLayer_fieldsForLayer rest
    simp only [fieldsForLayer, hvalue, hrest]

end

end

/-! ## What a move commutes with -/

/-- **Moving a schema commutes with everything**: with inferring it from a sample under any path, with
another move, and with the traversal of its records. It puts every record into the layer and leaves
the keys, the shape, the logical names and their order as they are. -/
theorem forLayer_commutes (feature : String) (path : List String) (value : Json) (schema : Schema)
    (first second : RecordLayer) :
    (infer feature first path value).forLayer second = infer feature second path value ∧
      (schema.forLayer first).forLayer second = schema.forLayer second ∧
      (schema.forLayer second).records =
        schema.records.map (fun record => record.forLayer second) ∧
      (∀ record ∈ (schema.forLayer second).records, record.name.layer = second) ∧
      (schema.forLayer second).skeleton = schema.skeleton ∧
      (schema.forLayer second).records.map (fun record => (record.name.logical, record.keys)) =
        schema.records.map (fun record => (record.name.logical, record.keys)) := by
  have hrecords := records_forLayer second schema
  refine ⟨forLayer_infer feature first second path value, forLayer_forLayer first second schema,
    hrecords, ?_, skeleton_forLayer second schema, ?_⟩
  · intro record hrecord
    rw [hrecords] at hrecord
    obtain ⟨original, -, rfl⟩ := List.mem_map.1 hrecord
    rfl
  · rw [hrecords, List.map_map]
    apply List.map_congr_left
    intro record _
    show (record.name.logical, (record.forLayer second).keys) = (record.name.logical, record.keys)
    rw [keys_forLayer]

end DartLayers.Schema
