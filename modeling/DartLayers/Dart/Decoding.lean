import DartLayers.Dart.Literal
import DartLayers.Dart.Type

/-!
# DartLayers — reading a field out of a decoded payload

A generated model reads each of its fields from the map `json`. The reading expression is built as
a tree and printed. Scalars and lists of scalars are coerced by `safeParse`; a nested record calls
its class's `fromJson`; any other list maps the decoding of an element over its items.

* **`Source`** — what an expression reads: a field of `json`, or the parameter of a lambda.
* **`Decoding`** — the expressions; `Decoding.render` prints them.
* **`Decoding.ofField`** — the expression for a field with a given schema and key.
-/

namespace DartLayers.Dart

/-- What an expression reads: the field with a key, or the parameter of the lambda at a depth. -/
inductive Source where
  | field (key : String)
  | parameter (depth : Nat)
  deriving Repr, DecidableEq

/-- What an expression gives when its field is missing. -/
inductive Absent where
  | null
  | emptyList
  deriving Repr, DecidableEq

/-- A reading expression. -/
inductive Decoding where
  | fromJson (model : TypeName) (source : Source)
  | safeParse (type : DartType) (source : Source) (label : String)
  | mapItems (source : Source) (depth : Nat) (body : Decoding)
  | ifPresent (source : Source) (body : Decoding) (absent : Absent)
  deriving DecidableEq

/-- The type of a decoded payload object. -/
def jsonMapType : String := "Map<String, dynamic>"

/-- The parameter of the lambda at a depth. -/
def parameterName (depth : Nat) : String := "e" ++ toString depth

namespace Source

/-- A source in source form. -/
def render : Source → String
  | .field key => "json['" ++ escape key ++ "']"
  | .parameter depth => parameterName depth

end Source

namespace Absent

/-- The replacement of a missing field in source form. -/
def render : Absent → String
  | .null => "null"
  | .emptyList => "[]"

end Absent

namespace Decoding

/-- An expression in source form. -/
def render : Decoding → String
  | .fromJson model source =>
    model.qualified ++ ".fromJson(" ++ source.render ++ " as " ++ jsonMapType ++ ")"
  | .safeParse type source label =>
    "safeParse<" ++ type.render ++ ">(" ++ source.render ++ ", '" ++ escape label ++ "')"
  | .mapItems source depth body =>
    "(" ++ source.render ++ " as List).map((" ++ parameterName depth ++ ") => " ++ body.render ++
      ").toList()"
  | .ifPresent source body absent =>
    source.render ++ " != null ? " ++ body.render ++ " : " ++ absent.render

/-- The expression for the element of a list; lambdas below it start at `depth`. -/
def ofElement (key : String) : Schema → Source → (depth : Nat) → Decoding
  | .record name _, source, _ => .fromJson name source
  | .scalar kind, source, _ => .safeParse (.scalar kind) source key
  | .list element, source, depth =>
    if element.isScalar then .safeParse (.list (.ofSchema element)) source key
    else .mapItems source depth (ofElement key element (.parameter depth) (depth + 1))

/-- The expression for the field with a given key. -/
def ofField (schema : Schema) (key : String) : Decoding :=
  match schema with
  | .record name _ => .ifPresent (.field key) (.fromJson name (.field key)) .null
  | .scalar kind => .safeParse (.scalar kind) (.field key) key
  | .list element =>
    if element.isScalar then .safeParse (.list (.ofSchema element)) (.field key) key
    else .ifPresent (.field key) (ofElement key (.list element) (.field key) 0) .emptyList

end Decoding

end DartLayers.Dart
