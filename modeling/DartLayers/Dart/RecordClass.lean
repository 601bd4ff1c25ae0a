import DartLayers.Dart.Decoding
import DartLayers.Dart.Identifier

/-!
# DartLayers — the classes of the record layers

The entity layer and the model layer render the same record tree: the same classes in the same
order with the same fields. A model class extends the entity of its name and reads each field out
of a decoded payload; an entity class does neither.
-/

namespace DartLayers.Dart

/-- A field of a record class. -/
structure FieldDeclaration where
  key : String
  identifier : String
  type : DartType
  decoding : Option Decoding
  deriving DecidableEq

/-- A record class; `base` is the entity that a model extends. -/
structure RecordClass where
  name : TypeName
  base : Option TypeName
  fields : List FieldDeclaration
  deriving DecidableEq

namespace RecordClass

/-- The field names, in order. -/
def identifiers (record : RecordClass) : List String :=
  record.fields.map FieldDeclaration.identifier

/-- The fields of a record, named in order. -/
def fieldsOf (decoders : Bool) (fields : List (String × Schema)) : List FieldDeclaration :=
  (fields.zip (fieldIdentifiers (fields.map Prod.fst))).map fun ((key, value), identifier) =>
    { key, identifier, type := .ofField value
      decoding := if decoders then some (.ofField value key) else none }

/-- The class of a record whose names are already those of a layer. -/
def ofRecord (layer : RecordLayer) (decoders : Bool) (record : RecordSchema) : RecordClass :=
  { name := record.name
    base := if layer = .entity then none else some (record.name.forLayer .entity)
    fields := fieldsOf decoders record.fields }

end RecordClass

/-- The classes of one layer, innermost first and the root last. -/
def recordClasses (root : Schema) (layer : RecordLayer) (decoders : Bool) : List RecordClass :=
  (root.forLayer layer).records.map (RecordClass.ofRecord layer decoders)

end DartLayers.Dart
