import DartLayers.Proofs.Template.Records

/-!
# DartLayers — the classes of a payload

The entity file and the model file of a plan hold a class for each record of the payload, and every
list of names in a class is the list of the record's field names.

* **`outlinesIn`** — the classes that are read off the rendered files of a layer.
* **`outlines_of_payload`** — for a payload without line breaks in its keys they are the records.
-/

namespace DartLayers

/-- The classes in the files of a layer, file by file, as they are read off the rendered texts. -/
def outlinesIn (layer : Layer) (planned : List Artifact) :
    Except TemplateFault (List (List Dart.ClassOutline)) :=
  (Artifact.renderAll (planned.filter (·.layer = layer))).map fun files =>
    files.map fun file => Dart.outlines file.content

/-- A single file of a layer with known lines. -/
theorem outlinesIn_of_renders {layer : Layer} {planned : List Artifact} {artifact : Artifact}
    (hlayer : planned.filter (·.layer = layer) = [artifact]) {template : List Line}
    (htemplate : Template.find? artifact.template = some template) {lines : List String}
    (hlines : Renders template artifact.context lines) :
    outlinesIn layer planned = .ok [Dart.outlines (Text.ofLines lines)] := by
  have hrendered : artifact.render = .ok { artifact with content := Text.ofLines lines } := by
    rw [Artifact.render, renderTemplate, htemplate]
    simp only
    rw [hlines]
    rfl
  rw [outlinesIn, hlayer, Artifact.renderAll, hrendered]
  rfl

open Dart

/-- The classes of a layer have the names and the keys of the records, moved to the layer. -/
theorem map_recordClasses {α : Type} (schema : Schema) (layer : RecordLayer) (decoders : Bool)
    (outline : String → List String → α) :
    (recordClasses schema layer decoders).map
        (fun record => outline record.name.qualified record.identifiers) =
      schema.records.map fun record =>
        outline (record.name.forLayer layer).qualified (fieldIdentifiers record.keys) := by
  rw [recordClasses, Schema.records_forLayer, List.map_map, List.map_map]
  refine List.map_congr_left fun record _ => ?_
  have hidentifiers : (RecordClass.ofRecord layer decoders (record.forLayer layer)).identifiers =
      fieldIdentifiers record.keys := by
    rw [RecordClass.identifiers, RecordClass.ofRecord, RecordClass.identifiers_fieldsOf,
      RecordSchema.forLayer, Schema.keys_fieldsForLayer, RecordSchema.keys]
  exact congrArg (outline (record.name.forLayer layer).qualified) hidentifiers

/-- The classes of a plan, for a record schema whose names and keys hold no line breaks. -/
theorem outlines_planned {name : TypeName} {fields : List (String × Schema)}
    (htidy : (Schema.record name fields).IsTidy) {feature : Feature}
    (hfeature : Text.IsLine feature.name) (wrapList : Bool) (timeout : Int) :
    ∃ planned, planArtifacts (.record name fields) feature wrapList timeout = .ok planned ∧
      outlinesIn .domainEntity planned = .ok [(Schema.record name fields).records.map fun record =>
        .ofEntity (record.name.forLayer .entity).qualified (fieldIdentifiers record.keys)] ∧
      outlinesIn .dataModel planned = .ok [(Schema.record name fields).records.map fun record =>
        .ofModel (record.name.forLayer .model).qualified (fieldIdentifiers record.keys)] := by
  have hentity : Template.find? "feature/domain/entity.dart.j2" = some Template.entity := by rfl
  have hmodel : Template.find? "feature/data/model.dart.j2" = some Template.model := by rfl
  refine ⟨_, rfl, ?_, ?_⟩
  · have hprintable := recordClasses_isPrintable htidy .entity false
    refine Eq.trans (outlinesIn_of_renders rfl hentity (renders_entity rfl)) ?_
    rw [outlines_entityLines hprintable, map_recordClasses]
  · have hprintable := recordClasses_isPrintable htidy .model true
    have hname : (Json.string feature.name).display = feature.name := rfl
    refine Eq.trans (outlinesIn_of_renders rfl hmodel (renders_model rfl rfl)) ?_
    rw [hname, outlines_modelLines hprintable hfeature, map_recordClasses]

/-- **Every list of names in the record classes of a payload is the list of its field names**: the
entity file and the model file declare one class for each record, innermost first; an entity lists
the field names in its declarations, its parameters and its properties, a model in its parameters
and in the arguments of its factory. -/
theorem outlines_of_payload {endpoint : String} {method : HttpMethod} {base : Option String}
    {feature : Feature} (hfeature : Feature.ofEndpoint endpoint method base = .ok feature)
    {members : List (String × Json)} (hkeys : ∀ key ∈ (Json.object members).keys, Text.IsLine key)
    (wrapList : Bool) (timeout : Int) :
    let schema := Schema.infer feature.name .entity [] (.object members)
    ∃ planned, planArtifacts schema feature wrapList timeout = .ok planned ∧
      outlinesIn .domainEntity planned = .ok [schema.records.map fun record =>
        .ofEntity (record.name.forLayer .entity).qualified (fieldIdentifiers record.keys)] ∧
      outlinesIn .dataModel planned = .ok [schema.records.map fun record =>
        .ofModel (record.name.forLayer .model).qualified (fieldIdentifiers record.keys)] := by
  have hname := (Feature.isNamed_of_ofEndpoint hfeature).isWord
  have htidy : (Schema.infer feature.name .entity [] (.object members)).IsTidy :=
    Schema.isTidy_infer [] _ hkeys
  exact outlines_planned htidy hname.isLine wrapList timeout

/-- A payload with records in lists of lists and records without fields, and with keys that are
empty, reserved, spelled alike or full of Dart's own characters. -/
def oddMembers : List (String × Json) := [
  ("class", .int 1),
  ("", .null),
  ("user-name", .array [.array [.object [("it's", .object []), ("class X \x7b", .bool true)]]]),
  ("userName", .object [("a", .array [])])]

theorem outlines_oddMembers :
    let feature := Feature.ofParts "/order-items".toList [] .get none
    Feature.ofEndpoint "/order-items" .get none = .ok feature ∧
      (∀ key ∈ (Json.object oddMembers).keys, Text.IsLine key) ∧
      ∃ planned, planArtifacts (Schema.infer feature.name .entity [] (.object oddMembers)) feature
          true 30 = .ok planned ∧
        outlinesIn .domainEntity planned = .ok [[
          .ofEntity "ItSEntity" [],
          .ofEntity "UserNameEntity" ["itS", "classX"],
          .ofEntity "UserNameEntity" ["a"],
          .ofEntity "OrderItemsResponseEntity" ["class_", "field1", "userName", "userName2"]]] ∧
        outlinesIn .dataModel planned = .ok [[
          .ofModel "ItSModel" [],
          .ofModel "UserNameModel" ["itS", "classX"],
          .ofModel "UserNameModel" ["a"],
          .ofModel "OrderItemsResponseModel" ["class_", "field1", "userName", "userName2"]]] := by
  have hfeature : Feature.ofEndpoint "/order-items" .get none =
      .ok (Feature.ofParts "/order-items".toList [] .get none) := by decide +kernel
  have hkeys : ∀ key ∈ (Json.object oddMembers).keys, Text.IsLine key := by decide +kernel
  obtain ⟨planned, hplanned, hentities, hmodels⟩ := outlines_of_payload hfeature hkeys true 30
  refine ⟨hfeature, hkeys, planned, hplanned, hentities.trans ?_, hmodels.trans ?_⟩ <;>
  · rw [Except.ok.injEq, List.singleton_inj]
    decide +kernel

end DartLayers
