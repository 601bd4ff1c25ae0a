import DartLayers.Schema

/-!
# DartLayers — Dart types of payload values

The declared types of the generated classes: built-in scalars, lists, record classes, and nullable
forms of them.
-/

namespace DartLayers.Dart

/-- A declared type. -/
inductive DartType where
  | scalar (kind : ScalarKind)
  | list (element : DartType)
  | record (name : TypeName)
  | nullable (type : DartType)
  deriving DecidableEq

/-- The built-in type of a scalar. -/
def scalarName : ScalarKind → String
  | .dynamic => "dynamic"
  | .bool => "bool"
  | .int => "int"
  | .float => "double"
  | .string => "String"

namespace DartType

/-- A type in source form. -/
def render : DartType → String
  | .scalar kind => scalarName kind
  | .list element => "List<" ++ element.render ++ ">"
  | .record name => name.qualified
  | .nullable type => type.render ++ "?"

/-- A type with every record name moved to a layer. -/
def forLayer (layer : RecordLayer) : DartType → DartType
  | .scalar kind => .scalar kind
  | .list element => .list (element.forLayer layer)
  | .record name => .record (name.forLayer layer)
  | .nullable type => .nullable (type.forLayer layer)

/-- The type of a value with a given schema. -/
def ofSchema : Schema → DartType
  | .scalar kind => .scalar kind
  | .list element => .list (ofSchema element)
  | .record name _ => .record name

/-- The type of a field with a given schema: a nested record may be missing. -/
def ofField : Schema → DartType
  | .record name _ => .nullable (.record name)
  | value => ofSchema value

/-- Moving a value's schema moves its type. -/
theorem ofSchema_forLayer (layer : RecordLayer) (schema : Schema) :
    ofSchema (schema.forLayer layer) = (ofSchema schema).forLayer layer := by
  match schema with
  | .scalar _ => rfl
  | .list element => simp [Schema.forLayer, ofSchema, forLayer, ofSchema_forLayer layer element]
  | .record _ _ => rfl

end DartType

end DartLayers.Dart
