import DartLayers.Proofs.Dart.Layers
import DartLayers.Proofs.Schema.Places

/-!
# DartLayers — classes before their uses

A record class names other record classes: in the types of its fields, and in the expressions that read
them. A type and an expression that are made from one schema name the same class, that of the record
inside the lists of the schema. The classes of a layer follow the traversal of the record tree, so that
whatever a class names has been defined before it.

* **`FieldDeclaration.classes`** — the record classes that a field names.
* **`DefinesBeforeUse`** — a list of classes in which none names a class that is not defined before.
* **`recordClasses_inOrder`** — the classes of a layer, one for each record of the tree.
-/

namespace DartLayers.Dart

/-! ## What a field names -/

/-- The record classes that a type names. -/
def DartType.classes : DartType → List TypeName
  | .scalar _ => []
  | .list element => element.classes
  | .record name => [name]
  | .nullable type => type.classes

/-- The record classes that an expression names: the one whose `fromJson` it calls, or those in the
type argument of `safeParse`. -/
def Decoding.classes : Decoding → List TypeName
  | .fromJson model _ => [model]
  | .safeParse type _ _ => type.classes
  | .mapItems _ _ body => body.classes
  | .ifPresent _ body _ => body.classes

/-- The record classes that a field names, in its type and in the expression that reads it. -/
def FieldDeclaration.classes (field : FieldDeclaration) : List TypeName :=
  field.type.classes ++ (field.decoding.map Decoding.classes).getD []

theorem DartType.classes_ofSchema (schema : Schema) :
    (DartType.ofSchema schema).classes = schema.leafName?.toList := by
  cases schema with
  | scalar | record => rfl
  | list element =>
    have helement := DartType.classes_ofSchema element
    rwa [ofSchema, classes, Schema.leafName?]

theorem DartType.classes_ofField (schema : Schema) :
    (DartType.ofField schema).classes = schema.leafName?.toList := by
  cases schema with
  | scalar | record => rfl
  | list element => exact DartType.classes_ofSchema (.list element)

theorem Decoding.classes_ofElement (key : String) : (schema : Schema) → (source : Source) →
    (depth : Nat) → (ofElement key schema source depth).classes = schema.leafName?.toList
  | .scalar _, _, _ => rfl
  | .record _ _, _, _ => rfl
  | .list element, source, depth => by
    have hbody := classes_ofElement key element (.parameter depth) (depth + 1)
    rw [ofElement, Schema.leafName?]
    split
    · -- a list of scalars is read as a whole, and its type names nothing
      exact DartType.classes_ofSchema element
    · exact hbody

theorem Decoding.classes_ofField (schema : Schema) (key : String) :
    (ofField schema key).classes = schema.leafName?.toList := by
  cases schema with
  | scalar | record => rfl
  | list element =>
    have hlist := classes_ofElement key (.list element) (.field key) 0
    rw [ofField]
    split
    · exact DartType.classes_ofSchema (.list element)
    · exact hlist

/-- A field names the class of the record inside the lists of its value. -/
theorem leafName?_of_mem_classes {decoders : Bool} {fields : List (String × Schema)}
    {field : FieldDeclaration} (hfield : field ∈ RecordClass.fieldsOf decoders fields)
    {used : TypeName} (hused : used ∈ field.classes) :
    ∃ (index : Nat) (key : String) (value : Schema),
      fields[index]? = some (key, value) ∧ value.leafName? = some used := by
  obtain ⟨⟨⟨key, value⟩, identifier⟩, hzip, rfl⟩ := List.mem_map.1 hfield
  obtain ⟨index, hindex⟩ := List.mem_iff_getElem?.1 (List.of_mem_zip hzip).1
  refine ⟨index, key, value, hindex, ?_⟩
  cases decoders with
  | false =>
    have htype : used ∈ (DartType.ofField value).classes := by
      simpa [FieldDeclaration.classes] using hused
    rwa [DartType.classes_ofField, Option.mem_toList] at htype
  | true =>
    have heither : used ∈ (DartType.ofField value).classes ∨
        used ∈ (Decoding.ofField value key).classes := by
      simpa [FieldDeclaration.classes] using hused
    rwa [DartType.classes_ofField, Decoding.classes_ofField, or_self, Option.mem_toList] at heither

/-! ## The order of the classes -/

/-- In a list of classes every class that a field names is defined before the class of the field. -/
def DefinesBeforeUse (classes : List RecordClass) : Prop :=
  ∀ (index : Nat) (record : RecordClass), classes[index]? = some record →
    ∀ field ∈ record.fields, ∀ used ∈ field.classes,
      ∃ (earlier : Nat) (definition : RecordClass),
        earlier < index ∧ classes[earlier]? = some definition ∧ definition.name = used

/-- The class of the record at a place of a tree. -/
def classAt {root : Schema} (layer : RecordLayer) (decoders : Bool)
    (place : Schema.RecordPlace root) : RecordClass :=
  RecordClass.ofRecord layer decoders (place.record.forLayer layer)

section

variable (root : Schema) (layer : RecordLayer) (decoders : Bool)

/-- The classes of a layer are those of the records of the tree, in the order of the traversal. -/
theorem recordClasses_eq_map :
    recordClasses root layer decoders = root.recordPlaces.map (classAt layer decoders) := by
  rw [recordClasses, Schema.records_forLayer, ← Schema.map_record_recordPlaces, List.map_map,
    List.map_map]
  rfl

/-- **What a class names has been defined before it**: the record stands at a place that continues the
place of the class. -/
theorem definesBeforeUse_recordClasses : DefinesBeforeUse (recordClasses root layer decoders) := by
  intro index record hrecord field hfield used hused
  rw [recordClasses_eq_map, List.getElem?_map, Option.map_eq_some_iff] at hrecord
  obtain ⟨place, hplace, rfl⟩ := hrecord
  -- the field of the moved record is the field of the record, moved
  obtain ⟨step, key, value, hvalue, hleaf⟩ := leafName?_of_mem_classes hfield hused
  rw [RecordSchema.forLayer, Schema.fieldsForLayer_eq_map, List.getElem?_map,
    Option.map_eq_some_iff] at hvalue
  obtain ⟨⟨key, original⟩, horiginal, hmoved⟩ := hvalue
  cases hmoved
  rw [Schema.leafName?_forLayer, Option.map_eq_some_iff] at hleaf
  obtain ⟨name, hname, rfl⟩ := hleaf
  -- below it stands the record whose class is named
  obtain ⟨path, fields, hpart⟩ := Schema.exists_part?_of_leafName? hname
  have hbelow : root.part? (place.path ++ .field step :: path) = some (.record name fields) := by
    rw [Schema.part?_append, place.part_eq, Option.bind_some, Schema.part?, horiginal]
    exact hpart
  let below : Schema.RecordPlace root :=
    ⟨place.path ++ .field step :: path, ⟨name, fields⟩, hbelow⟩
  obtain ⟨earlier, hearlier⟩ := List.mem_iff_getElem?.1 (Schema.mem_recordPlaces root below)
  have hbefore : earlier < index := by
    apply Schema.lt_of_prefix hplace hearlier (List.prefix_append _ _)
    intro hsame
    have hlength := congrArg List.length hsame
    simp [below] at hlength
  refine ⟨earlier, classAt layer decoders below, hbefore, ?_, rfl⟩
  rw [recordClasses_eq_map, List.getElem?_map, hearlier]
  rfl

end

/-- **The classes of a layer are defined in order and nothing is lost.** There is one class for each
place of the tree where a record stands, also where records share a name; the root's comes last; and
every class that a field names, in its type or in the expression that reads it, is defined before. -/
theorem recordClasses_inOrder (name : TypeName) (fields : List (String × Schema))
    (layer : RecordLayer) (decoders : Bool) :
    ∃ places : List (Schema.RecordPlace (.record name fields)),
      places.Nodup ∧ (∀ place, place ∈ places) ∧
      recordClasses (.record name fields) layer decoders = places.map (classAt layer decoders) ∧
      places.getLast? = some (.root name fields) ∧
      DefinesBeforeUse (recordClasses (.record name fields) layer decoders) :=
  ⟨Schema.recordPlaces (.record name fields), Schema.nodup_recordPlaces _, Schema.mem_recordPlaces _,
    recordClasses_eq_map _ layer decoders, Schema.getLast?_recordPlaces name fields,
    definesBeforeUse_recordClasses _ layer decoders⟩

/-- Two records of one name are two classes, and both come before the class that names them. -/
example :
    let item : Schema := .record ⟨"item", .entity, by decide⟩ []
    let orders : Schema :=
      .record ⟨"orders", .entity, by decide⟩ [("first", item), ("rest", .list (.list item))]
    (recordClasses orders .model true).map (fun record => record.name.logical) =
      ["item", "item", "orders"] := by
  decide

end DartLayers.Dart
