import DartLayers.Schema.Inference

/-!
# DartLayers — what a schema shows of a sample

A schema is inferred from one sample, and two samples may give the same one. They do exactly when
they have the same skeleton: the keys of their objects in order, the first item of every list, and
the kind of every scalar. Record names bear on neither direction, as they come from the path.

* **`Json.skeleton`** — what is left of a sample.
* **`Skeleton.schema`**, **`Schema.skeleton`** — between skeletons and schemas, both ways.
* **`infer_eq_iff`** — equal schemas come from equal skeletons.
-/

namespace DartLayers

/-- A sample without its scalars' values and without the tails of its lists. -/
inductive Skeleton where
  | scalar (kind : ScalarKind)
  | list (first : Skeleton)
  | object (members : List (String × Skeleton))

namespace Json

mutual

/-- A scalar leaves its kind, an object its keys in order, and a list its first item; an empty list
leaves what the list of a null leaves. -/
def skeleton : Json → Skeleton
  | .null => .scalar .dynamic
  | .bool _ => .scalar .bool
  | .int _ => .scalar .int
  | .float _ => .scalar .float
  | .string _ => .scalar .string
  | .array items => .list (firstSkeleton items)
  | .object members => .object (memberSkeletons members)

def firstSkeleton : List Json → Skeleton
  | [] => .scalar .dynamic
  | first :: _ => first.skeleton

def memberSkeletons : List (String × Json) → List (String × Skeleton)
  | [] => []
  | (key, value) :: rest => (key, value.skeleton) :: memberSkeletons rest

end

example : (Json.array [.int 1, .string "tail"]).skeleton = (Json.array [.int 2]).skeleton := rfl

example : (Json.array []).skeleton = (Json.array [.null]).skeleton := rfl

end Json

/-! ## From a skeleton to the schema and back -/

mutual

/-- The schema of the samples with a skeleton. -/
def Skeleton.schema (feature : String) (layer : RecordLayer) (path : List String) :
    Skeleton → Schema
  | .scalar kind => .scalar kind
  | .list first => .list (first.schema feature layer path)
  | .object members => .record (recordName feature path layer)
      (Skeleton.memberSchemas feature layer path members)

def Skeleton.memberSchemas (feature : String) (layer : RecordLayer) (path : List String) :
    List (String × Skeleton) → List (String × Schema)
  | [] => []
  | (key, value) :: rest =>
    (key, value.schema feature layer (path ++ [key])) :: memberSchemas feature layer path rest

end

namespace Schema

mutual

/-- A schema without the names of its records. -/
def skeleton : Schema → Skeleton
  | .scalar kind => .scalar kind
  | .list element => .list element.skeleton
  | .record _ fields => .object (fieldSkeletons fields)

def fieldSkeletons : List (String × Schema) → List (String × Skeleton)
  | [] => []
  | (key, value) :: rest => (key, value.skeleton) :: fieldSkeletons rest

end

variable (feature : String) (layer : RecordLayer)

-- The path grows on the way down, so both inductions are for all paths.
mutual

/-- **A schema depends on the skeleton only.** -/
theorem infer_eq_schema (path : List String) :
    (value : Json) → infer feature layer path value = value.skeleton.schema feature layer path
  | .null | .bool _ | .int _ | .float _ | .string _ => rfl
  | .array items => by
    have hfirst := inferFirst_eq_schema path items
    simp only [infer, Json.skeleton, Skeleton.schema, hfirst]
  | .object members => by
    have hmembers := inferMembers_eq_schemas path members
    simp only [infer, Json.skeleton, Skeleton.schema, hmembers]

theorem inferFirst_eq_schema (path : List String) :
    (items : List Json) →
      inferFirst feature layer path items = (Json.firstSkeleton items).schema feature layer path
  | [] => rfl
  | first :: _ => infer_eq_schema path first

theorem inferMembers_eq_schemas (path : List String) :
    (members : List (String × Json)) → inferMembers feature layer path members =
      Skeleton.memberSchemas feature layer path (Json.memberSkeletons members)
  | [] => rfl
  | (key, value) :: rest => by
    have hvalue := infer_eq_schema (path ++ [key]) value
    have hrest := inferMembers_eq_schemas path rest
    simp only [inferMembers, Json.memberSkeletons, Skeleton.memberSchemas, hvalue, hrest]

end

mutual

/-- **A schema keeps the skeleton.** -/
theorem skeleton_infer (path : List String) :
    (value : Json) → (infer feature layer path value).skeleton = value.skeleton
  | .null | .bool _ | .int _ | .float _ | .string _ => rfl
  | .array items => by
    have hfirst := skeleton_inferFirst path items
    simp only [infer, Json.skeleton, skeleton, hfirst]
  | .object members => by
    have hmembers := fieldSkeletons_inferMembers path members
    simp only [infer, Json.skeleton, skeleton, hmembers]

theorem skeleton_inferFirst (path : List String) :
    (items : List Json) →
      (inferFirst feature layer path items).skeleton = Json.firstSkeleton items
  | [] => rfl
  | first :: _ => skeleton_infer path first

theorem fieldSkeletons_inferMembers (path : List String) :
    (members : List (String × Json)) →
      fieldSkeletons (inferMembers feature layer path members) = Json.memberSkeletons members
  | [] => rfl
  | (key, value) :: rest => by
    have hvalue := skeleton_infer (path ++ [key]) value
    have hrest := fieldSkeletons_inferMembers path rest
    simp only [inferMembers, Json.memberSkeletons, fieldSkeletons, hvalue, hrest]

end

/-- **Two samples have the same schema exactly when they have the same skeleton**, under any path. -/
theorem infer_eq_iff (path : List String) (value other : Json) :
    infer feature layer path value = infer feature layer path other ↔
      value.skeleton = other.skeleton := by
  constructor
  · intro hschema
    calc value.skeleton
        = (infer feature layer path value).skeleton := (skeleton_infer feature layer path value).symm
      _ = (infer feature layer path other).skeleton := by rw [hschema]
      _ = other.skeleton := skeleton_infer feature layer path other
  · intro hskeleton
    rw [infer_eq_schema, infer_eq_schema, hskeleton]

end Schema

end DartLayers
