import DartLayers.Double

/-!
# DartLayers — JSON values

A sample payload, a request body and a scripted reply are JSON values. An object keeps its members
in order; reading a repeated key replaces the value at the key's first place (`insertMember`), so
the keys of a read object are distinct.
-/

namespace DartLayers

/-- A JSON value. Whole numbers and fractional numbers are different values. -/
inductive Json where
  | null
  | bool (value : Bool)
  | int (value : Int)
  | float (value : Double)
  | string (text : String)
  | array (items : List Json)
  | object (members : List (String × Json))
  deriving Repr, Inhabited

/-- Binds `key` to `value`: in its place if it is bound already, at the end otherwise. -/
def insertMember {α : Type} (key : String) (value : α) : List (String × α) → List (String × α)
  | [] => [(key, value)]
  | (k, v) :: rest =>
    if k = key then (k, value) :: rest else (k, v) :: insertMember key value rest

/-- Binds pairs one after the other. -/
def collectMembers {α : Type} (pairs : List (String × α)) : List (String × α) :=
  pairs.foldl (fun members pair => insertMember pair.1 pair.2 members) []

/-- How a message names the kind of a value. -/
def Json.typeName : Json → String
  | .null => "NoneType"
  | .bool _ => "bool"
  | .int _ => "int"
  | .float _ => "float"
  | .string _ => "str"
  | .array _ => "list"
  | .object _ => "dict"

/-- The keys after binding `key`: unchanged if it was bound, extended by it otherwise. -/
theorem keys_insertMember {α : Type} (key : String) (value : α) (members : List (String × α)) :
    (insertMember key value members).map Prod.fst =
      if key ∈ members.map Prod.fst then members.map Prod.fst
      else members.map Prod.fst ++ [key] := by
  induction members with
  | nil => rfl
  | cons member rest ih =>
    obtain ⟨k, v⟩ := member
    by_cases h : k = key
    · simp [insertMember, h]
    · rw [insertMember, if_neg h, List.map_cons, ih]
      by_cases hmem : key ∈ rest.map Prod.fst
      · simp [hmem]
      · simp [hmem, Ne.symm h]

/-- A bound key is found with its value. -/
theorem lookup_insertMember_self {α : Type} (key : String) (value : α)
    (members : List (String × α)) : (insertMember key value members).lookup key = some value := by
  induction members with
  | nil => simp [insertMember]
  | cons member rest ih =>
    obtain ⟨k, v⟩ := member
    by_cases h : k = key
    · simp [insertMember, h]
    · have hb : (key == k) = false := by simpa using Ne.symm h
      simp [insertMember, h, List.lookup_cons, hb, ih]

/-- Binding a key leaves the others as they are. -/
theorem lookup_insertMember_of_ne {α : Type} {key other : String} (h : other ≠ key) (value : α)
    (members : List (String × α)) :
    (insertMember key value members).lookup other = members.lookup other := by
  have hb : (other == key) = false := by simpa using h
  induction members with
  | nil => simp [insertMember, List.lookup_cons, hb]
  | cons member rest ih =>
    obtain ⟨k, v⟩ := member
    by_cases hk : k = key
    · simp [insertMember, hk, List.lookup_cons, hb]
    · simp only [insertMember, hk, if_false, List.lookup_cons, ih]

end DartLayers
