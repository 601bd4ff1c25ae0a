import DartLayers.Proofs.Json.Reading
import DartLayers.Sample
import DartLayers.Schema.Inference
import Mathlib.Data.List.Induction
import Mathlib.Data.List.Nodup

/-!
# DartLayers — from the text of a sample to its schema

The schema of a sample can be read off the document that its text spells: by recursion on the
document, with the last key on the way down, and without numbers being rounded or repeated keys
being merged first. Reading the text and inferring the schema of what was read gives the same.

* **`lastOfEach`** — a repeated key stands in its first place with its last value.
* **`Document.schema`** — the schema of a document.
* **`parseSample_schema`** — a sample has the schema of the document that its text spells.
-/

namespace DartLayers

/-! ## Repeated keys -/

/-- The distinct keys in the order of their first places, each with its last value. -/
def lastOfEach {α : Type} (pairs : List (String × α)) : List (String × α) :=
  (pairs.map Prod.fst).eraseDups.filterMap fun key =>
    (pairs.reverse.lookup key).map fun value => (key, value)

example : lastOfEach [("a", 1), ("b", 2), ("a", 3)] = [("a", 3), ("b", 2)] := by decide

section

variable {α : Type}

theorem collectMembers_concat (pairs : List (String × α)) (pair : String × α) :
    collectMembers (pairs ++ [pair]) = insertMember pair.1 pair.2 (collectMembers pairs) := by
  rw [collectMembers, List.foldl_append]
  rfl

/-- The keys of collected members: every key once, where it first stands. -/
theorem keys_collectMembers (pairs : List (String × α)) :
    (collectMembers pairs).map Prod.fst = (pairs.map Prod.fst).eraseDups := by
  induction pairs using List.reverseRecOn with
  | nil => rfl
  | append_singleton pairs pair ih =>
    rw [collectMembers_concat, keys_insertMember, ih, List.map_append, List.eraseDups_append]
    have honce : [pair.1].eraseDups = [pair.1] := rfl
    by_cases h : pair.1 ∈ pairs.map Prod.fst <;> simp_all [List.removeAll]

theorem nodup_collectMembers (pairs : List (String × α)) :
    ((collectMembers pairs).map Prod.fst).Nodup := by
  induction pairs using List.reverseRecOn with
  | nil => exact List.nodup_nil
  | append_singleton pairs pair ih =>
    rw [collectMembers_concat, keys_insertMember]
    split
    · exact ih
    · rename_i hfresh
      exact List.Nodup.append ih (List.nodup_singleton _) (List.disjoint_singleton.2 hfresh)

/-- The last value of a key is the one that is found. -/
theorem lookup_collectMembers (pairs : List (String × α)) (key : String) :
    (collectMembers pairs).lookup key = pairs.reverse.lookup key := by
  induction pairs using List.reverseRecOn with
  | nil => rfl
  | append_singleton pairs pair ih =>
    obtain ⟨last, value⟩ := pair
    rw [collectMembers_concat, List.reverse_append, List.reverse_singleton, List.singleton_append]
    by_cases h : key = last
    · subst h
      simp [lookup_insertMember_self]
    · have hkey : (key == last) = false := by simpa using h
      simp only [lookup_insertMember_of_ne h, List.lookup_cons, hkey, ih]

/-- Members with distinct keys are given by their keys and what is found under them. -/
theorem filterMap_lookup (members : List (String × α)) (h : (members.map Prod.fst).Nodup) :
    (members.map Prod.fst).filterMap (fun key => (members.lookup key).map fun value => (key, value)) =
      members := by
  induction members with
  | nil => rfl
  | cons member rest ih =>
    obtain ⟨key, value⟩ := member
    rw [List.map_cons, List.nodup_cons] at h
    obtain ⟨hfresh, hrest⟩ := h
    have hbehind : ∀ other ∈ rest.map Prod.fst,
        (((key, value) :: rest).lookup other).map (fun value => (other, value)) =
          (rest.lookup other).map fun value => (other, value) := by
      intro other hother
      have hne : (other == key) = false := by
        rw [beq_eq_false_iff_ne]
        rintro rfl
        exact hfresh hother
      rw [List.lookup_cons, hne]
    rw [List.map_cons, List.filterMap_cons, List.filterMap_congr hbehind, ih hrest]
    simp

theorem collectMembers_eq_lastOfEach (pairs : List (String × α)) :
    collectMembers pairs = lastOfEach pairs := by
  rw [← filterMap_lookup _ (nodup_collectMembers pairs), keys_collectMembers, lastOfEach]
  simp only [lookup_collectMembers]

end

/-! ## The schema of a document -/

namespace Document

/-- The name of the record behind a key, or of the root. -/
def recordName (feature : String) (layer : RecordLayer) : (key : Option String) → TypeName
  | none => ⟨classIdentifier feature ++ "Response", layer,
      append_ne_empty_left (classIdentifier_ne_empty feature)⟩
  | some key => ⟨classIdentifier key, layer, classIdentifier_ne_empty key⟩

mutual

/-- The schema of a document, given the last key on the way to it. -/
def schema (feature : String) (layer : RecordLayer) (key : Option String) : Document → Schema
  | .null => .scalar .dynamic
  | .bool _ => .scalar .bool
  | .number literal => .scalar (if literal.isWhole then .int else .float)
  | .string _ => .scalar .string
  | .array items => .list (firstSchema feature layer key items)
  | .object members =>
    .record (recordName feature layer key) (lastOfEach (memberSchemas feature layer members))

/-- The schema of the first item; nothing is known about the items of an empty array. -/
def firstSchema (feature : String) (layer : RecordLayer) (key : Option String) :
    List Document → Schema
  | [] => .scalar .dynamic
  | first :: _ => first.schema feature layer key

def memberSchemas (feature : String) (layer : RecordLayer) :
    List (String × Document) → List (String × Schema)
  | [] => []
  | (key, value) :: rest =>
    (key, value.schema feature layer (some key)) :: memberSchemas feature layer rest

end

/-- Whether a document is an array. -/
def isArray : Document → Bool
  | .array _ => true
  | _ => false

/-- Whether a document can be a sample: an object or an array. -/
def isSample : Document → Bool
  | .object _ | .array _ => true
  | _ => false

/-- A document whose root is an object: an array becomes the member `data`. -/
def rooted : Document → Document
  | .array items => .object [("data", .array items)]
  | document => document

/-! ## The schema of what is read -/

section

variable (feature : String) (layer : RecordLayer)

theorem inferMembers_eq_map (path : List String) (members : List (String × Json)) :
    Schema.inferMembers feature layer path members = members.map fun member =>
      (member.1, Schema.infer feature layer (path ++ [member.1]) member.2) := by
  induction members with
  | nil => rfl
  | cons member rest ih =>
    obtain ⟨key, value⟩ := member
    rw [Schema.inferMembers, ih, List.map_cons]

/-- Members may be merged before or after their schemas are inferred. -/
theorem map_insertMember {α β : Type} (f : String → α → β) (key : String) (value : α)
    (members : List (String × α)) :
    (insertMember key value members).map (fun member => (member.1, f member.1 member.2)) =
      insertMember key (f key value) (members.map fun member => (member.1, f member.1 member.2)) := by
  induction members with
  | nil => rfl
  | cons member rest ih =>
    by_cases h : member.1 = key <;> simp [insertMember, h, ih]

theorem map_collectMembers {α β : Type} (f : String → α → β) (pairs : List (String × α)) :
    (collectMembers pairs).map (fun member => (member.1, f member.1 member.2)) =
      collectMembers (pairs.map fun member => (member.1, f member.1 member.2)) := by
  induction pairs using List.reverseRecOn with
  | nil => rfl
  | append_singleton pairs pair ih =>
    rw [collectMembers_concat, map_insertMember, ih, List.map_append, List.map_singleton,
      collectMembers_concat]

-- A schema depends on its path through the last key alone.
mutual

/-- **The schema of a document's value is that of the document.** -/
theorem infer_value (path : List String) : (document : Document) →
    Schema.infer feature layer path document.value = document.schema feature layer path.getLast?
  | .null | .bool _ | .string _ => rfl
  | .number literal => by
    rw [value, schema, JsonReader.NumberLiteral.number]
    cases literal.isWhole <;> rfl
  | .array items => by
    have hfirst := inferFirst_itemValues path items
    simp only [value, schema, Schema.infer, hfirst]
  | .object members => by
    have hmembers := map_infer_memberValues path members
    have hname : DartLayers.recordName feature path layer =
        recordName feature layer path.getLast? := by
      cases hlast : path.getLast? <;>
        simp only [DartLayers.recordName, recordName, recordIdentifier, hlast]
    rw [value, schema, Schema.infer, hname, inferMembers_eq_map,
      map_collectMembers fun key value => Schema.infer feature layer (path ++ [key]) value, hmembers,
      collectMembers_eq_lastOfEach]

theorem inferFirst_itemValues (path : List String) : (items : List Document) →
    Schema.inferFirst feature layer path (itemValues items) =
      firstSchema feature layer path.getLast? items
  | [] => rfl
  | first :: _ => infer_value path first

theorem map_infer_memberValues (path : List String) : (members : List (String × Document)) →
    ((memberValues members).map fun member =>
      (member.1, Schema.infer feature layer (path ++ [member.1]) member.2)) =
        memberSchemas feature layer members
  | [] => rfl
  | (key, value) :: rest => by
    have hvalue := infer_value (path ++ [key]) value
    have hrest := map_infer_memberValues path rest
    rw [List.getLast?_concat] at hvalue
    simp only [memberValues, memberSchemas, List.map_cons, hvalue, hrest]

end

end

/-- The payload of a document that can be a sample. -/
theorem ofJson_value {document : Document} (h : document.isSample = true) :
    ∃ payload, Payload.ofJson document.value = .ok payload ∧
      payload.rootWasList = document.isArray ∧
        .object payload.members = document.rooted.value := by
  cases document with
  | null | bool | number | string => cases h
  | array items => exact ⟨_, rfl, rfl, rfl⟩
  | object members => exact ⟨_, rfl, rfl, rfl⟩

end Document

/-- **From the text of a sample to its schema.** A text that spells an object or an array is taken
for a sample, and the schema of its payload is that of the document. -/
theorem parseSample_schema {document : Document} {text : String}
    (h : document.SpellsDocument text.toList) (hsample : document.isSample = true)
    (hreadable : Document.IsReadable document.numbers) :
    ∃ payload, parseSample text = .ok payload ∧ payload.rootWasList = document.isArray ∧
      ∀ feature layer, Schema.infer feature layer [] (.object payload.members) =
        document.rooted.schema feature layer none := by
  obtain ⟨payload, hpayload, hlist, hmembers⟩ := Document.ofJson_value hsample
  refine ⟨payload, ?_, hlist, fun feature layer => ?_⟩
  · rw [parseSample, Document.readJson_spelled h hreadable]
    exact hpayload
  · rw [hmembers, Document.infer_value]
    rfl

/-- An array whose first item has one key twice. -/
def twiceKeyed : Document :=
  .array [.object [("id", .number ⟨false, ['1'], none, none⟩),
    ("id", .number ⟨true, ['2'], some ['0'], some (false, ['3'])⟩)], .null]

/-- Its second key is spelled with an escape. -/
def twiceKeyedText : String := "[ \x7b\"id\":1,\n\"\\u0069d\" :-2.0E+3\x7d ,null]"

theorem twiceKeyed_schema :
    twiceKeyed.SpellsDocument twiceKeyedText.toList ∧ twiceKeyed.isSample = true ∧
      Document.IsReadable twiceKeyed.numbers ∧
        ∃ payload, parseSample twiceKeyedText = .ok payload ∧ payload.rootWasList = true ∧
          ∀ feature layer, Schema.infer feature layer [] (.object payload.members) =
            .record ⟨classIdentifier feature ++ "Response", layer,
                append_ne_empty_left (classIdentifier_ne_empty feature)⟩
              [("data", .list (.record ⟨"Data", layer, by decide⟩ [("id", .scalar .float)]))] := by
  have hd : Document.SpellsText ['d'] ['d'] :=
    @Document.SpellsText.cons 'd' [] ['d'] [] (.plain (by decide) (by decide) (by decide)) .nil
  -- The two keys are spelled in different ways, the second one with an escape.
  have hplain : Document.SpellsText ['i', 'd'] ['i', 'd'] :=
    @Document.SpellsText.cons 'i' _ ['i'] _ (.plain (by decide) (by decide) (by decide)) hd
  have hescaped : Document.SpellsText ['i', 'd'] ['\\', 'u', '0', '0', '6', '9', 'd'] :=
    @Document.SpellsText.cons 'i' _ ['\\', 'u', '0', '0', '6', '9'] _
      (.unit (@Document.SpellsUnit.mk 0 0 6 9 _ _ _ _ (.inl rfl) (.inl rfl) (.inl rfl) (.inl rfl)))
      hd
  have hone : Document.Spells (.number ⟨false, ['1'], none, none⟩) ['1'] :=
    .number (@Document.SpellsNumber.mk false ['1'] [] [] none none (by decide) .absent .absent)
  have hpower : Document.Spells (.number ⟨true, ['2'], some ['0'], some (false, ['3'])⟩)
      ['-', '2', '.', '0', 'E', '+', '3'] :=
    .number (@Document.SpellsNumber.mk true ['2'] ['.', '0'] ['E', '+', '3'] _ _ (by decide)
      (.present (by decide)) (.plus (.inr rfl) (by decide)))
  have hnone : Document.IsBlanks [] := by decide
  have hspace : Document.IsBlanks [' '] := by decide
  -- The members of the record, in an array with a null behind it.
  have hfirst := @Document.SpellsMember.mk "id" _ [] [] _ _ ⟨hplain⟩ hnone hnone hone
  have hsecond := @Document.SpellsMember.mk "id" _ [' '] [] _ _ ⟨hescaped⟩ hspace hnone hpower
  have hmembers := Document.SpellsMembers.more hnone hfirst hnone
    (.last (by decide : Document.IsBlanks ['\n']) hsecond hnone)
  have hitems := Document.SpellsItems.more hspace (.object hmembers) hspace
    (.last hnone .null hnone)
  have hspelled : twiceKeyed.SpellsDocument twiceKeyedText.toList := by
    have hdocument := Document.SpellsDocument.mk hnone (.array hitems) hnone
    refine (congrArg twiceKeyed.SpellsDocument ?_).mp hdocument
    rw [twiceKeyedText, String.toList_ofList]
    rfl
  have hreadable : Document.IsReadable twiceKeyed.numbers := by decide
  obtain ⟨payload, hpayload, hlist, hschema⟩ := parseSample_schema hspelled rfl hreadable
  refine ⟨hspelled, rfl, hreadable, payload, hpayload, hlist, fun feature layer => ?_⟩
  rw [hschema]
  rfl

end DartLayers
