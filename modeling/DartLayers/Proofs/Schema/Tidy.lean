import DartLayers.Proofs.Template.Lines
import DartLayers.Proofs.Text.Names

/-!
# DartLayers — names and keys of an inferred schema

The keys of a schema come from the payload, the names of its records from the feature and from
those keys. A name is a word whatever the key, so a payload whose keys hold no line breaks has a
schema that puts none into generated text.

* **`Json.keys`** — the keys of a payload, at every depth.
* **`Schema.IsTidy`** — the names are words, the keys hold no line breaks.
* **`Schema.isTidy_infer`** — the schema of a payload without line breaks in its keys is tidy.
-/

namespace DartLayers

namespace Json

mutual

/-- The keys of a value, at every depth. -/
def keys : Json → List String
  | .array items => itemKeys items
  | .object members => memberKeys members
  | _ => []

def itemKeys : List Json → List String
  | [] => []
  | item :: rest => item.keys ++ itemKeys rest

def memberKeys : List (String × Json) → List String
  | [] => []
  | (key, value) :: rest => key :: (value.keys ++ memberKeys rest)

end

end Json

theorem classIdentifier_isWord (text : String) : IsWord (classIdentifier text) :=
  ⟨classIdentifier_ne_empty text, fun c hc => .inl (classIdentifier_isAlphanum text c hc)⟩

theorem recordIdentifier_isWord (feature : String) (path : List String) :
    IsWord (recordIdentifier feature path) := by
  unfold recordIdentifier
  split
  · exact (classIdentifier_isWord feature).append (by decide)
  · exact classIdentifier_isWord _

/-- A class name is a word if the logical name is one. -/
theorem TypeName.qualified_isWord {name : TypeName} (h : IsWord name.logical) :
    IsWord name.qualified := by
  have hsuffix : IsWord name.layer.suffix := by cases name.layer <;> decide
  exact h.append hsuffix

namespace Schema

mutual

/-- The names of the records are words, and no key holds a line break. -/
def IsTidy : Schema → Prop
  | .scalar _ => True
  | .list element => element.IsTidy
  | .record name fields => IsWord name.logical ∧ AreTidy fields

/-- Fields with tidy keys and values. -/
def AreTidy : List (String × Schema) → Prop
  | [] => True
  | (key, value) :: rest => Text.IsLine key ∧ value.IsTidy ∧ AreTidy rest

end

theorem areTidy_iff {fields : List (String × Schema)} :
    AreTidy fields ↔ ∀ field ∈ fields, Text.IsLine field.1 ∧ field.2.IsTidy := by
  induction fields with
  | nil => simp [AreTidy]
  | cons field rest ih =>
    obtain ⟨key, value⟩ := field
    rw [AreTidy, ih, List.forall_mem_cons, and_assoc]

/-! ## Tidy schemas -/

section

variable {feature : String} {layer : RecordLayer}

mutual

/-- **An inferred schema is tidy** if no key of the payload holds a line break. -/
theorem isTidy_infer : (path : List String) → (value : Json) →
    (∀ key ∈ value.keys, Text.IsLine key) → (infer feature layer path value).IsTidy
  | _, .null, _ | _, .bool _, _ | _, .int _, _ | _, .float _, _ | _, .string _, _ => trivial
  | path, .array items, h => isTidy_inferFirst path items h
  | path, .object members, h =>
    ⟨recordIdentifier_isWord feature path, areTidy_inferMembers path members h⟩

theorem isTidy_inferFirst : (path : List String) → (items : List Json) →
    (∀ key ∈ Json.itemKeys items, Text.IsLine key) → (inferFirst feature layer path items).IsTidy
  | _, [], _ => trivial
  | path, first :: _, h =>
    isTidy_infer path first fun key hkey => h key (List.mem_append_left _ hkey)

theorem areTidy_inferMembers : (path : List String) → (members : List (String × Json)) →
    (∀ key ∈ Json.memberKeys members, Text.IsLine key) →
    AreTidy (inferMembers feature layer path members)
  | _, [], _ => trivial
  | path, (key, value) :: rest, h => by
    rw [Json.memberKeys, List.forall_mem_cons, List.forall_mem_append] at h
    obtain ⟨hkey, hvalue, hrest⟩ := h
    exact ⟨hkey, isTidy_infer (path ++ [key]) value hvalue, areTidy_inferMembers path rest hrest⟩

end

end

mutual

/-- Moving a schema to a layer keeps it tidy: only the tags of the names change. -/
theorem IsTidy.forLayer (layer : RecordLayer) : {schema : Schema} → schema.IsTidy →
    (schema.forLayer layer).IsTidy
  | .scalar _, _ => trivial
  | .list element, h => by
    have helement : element.IsTidy := h
    exact helement.forLayer layer
  | .record _ _, ⟨hname, hfields⟩ => ⟨hname, AreTidy.forLayer layer hfields⟩

theorem AreTidy.forLayer (layer : RecordLayer) : {fields : List (String × Schema)} →
    AreTidy fields → AreTidy (fieldsForLayer layer fields)
  | [], _ => trivial
  | (_, _) :: _, ⟨hkey, hvalue, hrest⟩ =>
    ⟨hkey, IsTidy.forLayer layer hvalue, AreTidy.forLayer layer hrest⟩

end

mutual

/-- The records of a tidy schema have words for names and tidy fields. -/
theorem IsTidy.of_mem_records : {schema : Schema} → schema.IsTidy → {record : RecordSchema} →
    record ∈ schema.records → IsWord record.name.logical ∧ AreTidy record.fields
  | .scalar _, _, _, hrecord => nomatch hrecord
  | .list element, h, _, hrecord => by
    have helement : element.IsTidy := h
    exact helement.of_mem_records hrecord
  | .record _ _, ⟨hname, hfields⟩, _, hrecord => by
    rw [records, List.mem_append, List.mem_singleton] at hrecord
    rcases hrecord with hinner | rfl
    · exact AreTidy.of_mem_fieldRecords hfields hinner
    · exact ⟨hname, hfields⟩

theorem AreTidy.of_mem_fieldRecords : {fields : List (String × Schema)} → AreTidy fields →
    {record : RecordSchema} → record ∈ fieldRecords fields →
    IsWord record.name.logical ∧ AreTidy record.fields
  | [], _, _, hrecord => nomatch hrecord
  | (_, _) :: _, ⟨_, hvalue, hrest⟩, _, hrecord => by
    rw [fieldRecords, List.mem_append] at hrecord
    rcases hrecord with hinner | hlater
    · exact IsTidy.of_mem_records hvalue hinner
    · exact AreTidy.of_mem_fieldRecords hrest hlater

end

/-- The records of a tidy schema have words for names. -/
theorem IsTidy.isWord_of_mem_records {schema : Schema} (h : schema.IsTidy) :
    ∀ record ∈ schema.records, IsWord record.name.logical :=
  fun _ hrecord => (h.of_mem_records hrecord).1

end Schema

end DartLayers
