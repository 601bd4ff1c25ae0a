import DartLayers.Validation

/-!
# DartLayers — payload schemas

A sample payload is described by a tree of scalars, lists and named records. A record's class name
is its logical name followed by the tag of the layer it is rendered for; moving a tree to a layer
changes the tags and nothing else.

* **`TypeName`** — a logical name, never empty, with a layer.
* **`Schema.forLayer`** — the tree with every name moved to a layer.
* **`Schema.records`** — the records of a tree, innermost first, so that a definition never
  precedes those it refers to.
-/

namespace DartLayers

/-! ## Names of records -/

/-- The layer that a record class is rendered for. -/
inductive RecordLayer where
  | entity
  | model
  deriving Repr, DecidableEq

/-- The tag at the end of a class name. -/
def RecordLayer.suffix : RecordLayer → String
  | .entity => "Entity"
  | .model => "Model"

/-- The layer with a given tag. -/
def RecordLayer.ofSuffix? (suffix : String) : Option RecordLayer :=
  if suffix = "Entity" then some .entity else if suffix = "Model" then some .model else none

/-- The name of a record: a logical name, which is never empty, and the layer. -/
structure TypeName where
  logical : String
  layer : RecordLayer
  logical_ne : logical ≠ "" := by decide
  deriving DecidableEq

namespace TypeName

/-- The class name. -/
def qualified (name : TypeName) : String :=
  name.logical ++ name.layer.suffix

/-- The same logical name in another layer. -/
def forLayer (name : TypeName) (layer : RecordLayer) : TypeName :=
  ⟨name.logical, layer, name.logical_ne⟩

/-- The name with a given logical name and tag, or the faults of the two. -/
def ofParts (logical suffix : String) : Except (List FieldFault) TypeName :=
  let layerFaults :=
    if (RecordLayer.ofSuffix? suffix).isNone then [⟨"layer_suffix", .layerName⟩] else []
  if h : logical = "" then .error (⟨"logical_name", .notEmpty⟩ :: layerFaults)
  else match RecordLayer.ofSuffix? suffix with
    | some layer => .ok ⟨logical, layer, h⟩
    | none => .error layerFaults

@[simp] theorem forLayer_forLayer (name : TypeName) (first second : RecordLayer) :
    (name.forLayer first).forLayer second = name.forLayer second := rfl

@[simp] theorem forLayer_self (name : TypeName) : name.forLayer name.layer = name := rfl

end TypeName

/-! ## Schemas -/

/-- The kind of a scalar; `dynamic` stands for no information. -/
inductive ScalarKind where
  | dynamic
  | bool
  | int
  | float
  | string
  deriving Repr, DecidableEq

/-- The schema of a value. A list has the schema of its first element; a record keeps its fields in
the payload's order. -/
inductive Schema where
  | scalar (kind : ScalarKind)
  | list (element : Schema)
  | record (name : TypeName) (fields : List (String × Schema))

/-- A record of a schema: its name and its fields. -/
structure RecordSchema where
  name : TypeName
  fields : List (String × Schema)

namespace RecordSchema

/-- The keys of the fields, in order. -/
def keys (record : RecordSchema) : List String :=
  record.fields.map Prod.fst

end RecordSchema

namespace Schema

/-- Whether a schema is a scalar. -/
def isScalar : Schema → Bool
  | .scalar _ => true
  | _ => false

mutual

/-- The tree with every record name moved to a layer. -/
def forLayer (layer : RecordLayer) : Schema → Schema
  | .scalar kind => .scalar kind
  | .list element => .list (element.forLayer layer)
  | .record name fields => .record (name.forLayer layer) (fieldsForLayer layer fields)

/-- Fields with every record name moved to a layer. -/
def fieldsForLayer (layer : RecordLayer) : List (String × Schema) → List (String × Schema)
  | [] => []
  | (key, value) :: rest => (key, value.forLayer layer) :: fieldsForLayer layer rest

end

mutual

/-- The records of a tree, innermost first: a record comes after those reached through its
fields. -/
def records : Schema → List RecordSchema
  | .scalar _ => []
  | .list element => element.records
  | .record name fields => fieldRecords fields ++ [⟨name, fields⟩]

/-- The records reached through fields, field by field. -/
def fieldRecords : List (String × Schema) → List RecordSchema
  | [] => []
  | (_, value) :: rest => value.records ++ fieldRecords rest

end

end Schema

/-- A record with its name and its fields moved to a layer. -/
def RecordSchema.forLayer (record : RecordSchema) (layer : RecordLayer) : RecordSchema :=
  ⟨record.name.forLayer layer, Schema.fieldsForLayer layer record.fields⟩

end DartLayers
