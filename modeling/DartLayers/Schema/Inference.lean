import DartLayers.Json
import DartLayers.Schema
import DartLayers.Text.Words

/-!
# DartLayers — inferring a schema from one sample

Only one sample is ever consulted. A list takes the schema of its first element, and an empty one
has a `dynamic` element. A record is named after the last key on the way to it; the root is named
after the feature.

Names are not made unique: two records under one leaf key share a name and both are kept.
-/

namespace DartLayers

/-- A class name made of a text: its words capitalised and joined, `Item` if there are none, and
`Item` in front of a digit. -/
def classIdentifier (text : String) : String :=
  let pascal := Text.toPascal text
  if pascal = "" then "Item"
  else if Text.startsWithDigit pascal then "Item" ++ pascal
  else pascal

/-- The logical name of the record at the end of a path of keys; the empty path is the root of the
feature's payload. -/
def recordIdentifier (feature : String) (path : List String) : String :=
  match path.getLast? with
  | none => classIdentifier feature ++ "Response"
  | some key => classIdentifier key

theorem append_ne_empty_left {s t : String} (h : s ≠ "") : s ++ t ≠ "" := by
  simp [h]

theorem classIdentifier_ne_empty (text : String) : classIdentifier text ≠ "" := by
  simp only [classIdentifier]
  split
  · decide
  · split
    · exact append_ne_empty_left (by decide)
    · assumption

theorem recordIdentifier_ne_empty (feature : String) (path : List String) :
    recordIdentifier feature path ≠ "" := by
  unfold recordIdentifier
  split
  · exact append_ne_empty_left (classIdentifier_ne_empty feature)
  · exact classIdentifier_ne_empty _

/-- The name of the record at the end of a path. -/
def recordName (feature : String) (path : List String) (layer : RecordLayer) : TypeName :=
  ⟨recordIdentifier feature path, layer, recordIdentifier_ne_empty feature path⟩

namespace Schema

mutual

/-- The schema of a value found at the end of a path of keys. -/
def infer (feature : String) (layer : RecordLayer) (path : List String) : Json → Schema
  | .null => .scalar .dynamic
  | .bool _ => .scalar .bool
  | .int _ => .scalar .int
  | .float _ => .scalar .float
  | .string _ => .scalar .string
  | .array items => .list (inferFirst feature layer path items)
  | .object members => .record (recordName feature path layer)
      (inferMembers feature layer path members)

/-- The schema of the first item, `dynamic` if there is none. -/
def inferFirst (feature : String) (layer : RecordLayer) (path : List String) :
    List Json → Schema
  | [] => .scalar .dynamic
  | first :: _ => infer feature layer path first

/-- The fields of the members of an object found at the end of a path. -/
def inferMembers (feature : String) (layer : RecordLayer) (path : List String) :
    List (String × Json) → List (String × Schema)
  | [] => []
  | (key, value) :: rest =>
    (key, infer feature layer (path ++ [key]) value) :: inferMembers feature layer path rest

end

end Schema

end DartLayers
