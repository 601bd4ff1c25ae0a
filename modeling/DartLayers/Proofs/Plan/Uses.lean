import DartLayers.Proofs.Plan.Readings
import DartLayers.Proofs.Plan.Safety
import DartLayers.Proofs.Schema.Records
import DartLayers.Proofs.Template.Uses

/-!
# DartLayers — classes that planned files name

A file of a layer names classes of few kinds. Every template is checked against the kinds of its
layer once, with nothing known of the values but what they are for; the values of a plan are of
these kinds for every endpoint and every payload, as long as no line break stands in the path, the
base address or a key.

* **`Layer.visible`** — the kinds of classes that the files of a layer may name.
* **`Template.uses`** — what is known of the values that a template reads.
* **`isFine_of_planned`** — the planned files name visible classes only.
-/

namespace DartLayers

open Dart

/-- The kinds of classes that the files of a layer may name. -/
def Layer.visible : Layer → List ClassKind
  | .networkCore | .coreSupport => []
  | .dataDatasource => [.model, .dataSource, .params]
  | .dataModel => [.entity, .model]
  | .dataRepositoryImpl => [.entity, .repository, .dataSource, .params]
  | .domainEntity => [.entity]
  | .domainRepositoryIface | .domainUsecase => [.entity, .repository, .params]
  | .domainParams => [.params]

namespace Template

/-! ## What is known of values -/

/-- What is known of the feature and of its names. -/
def nameUses : List (String × Shape UseKind) := [
  ("feature", .object [
    ("name", .leaf .word),
    ("endpoint_path", .leaf .text),
    ("http_method", .leaf .verb)]),
  ("endpoint_constant", .leaf .code),
  ("names", .object [
    ("entity", .leaf (.made .entity)),
    ("model", .leaf (.made .model)),
    ("repository", .leaf (.made .repository)),
    ("data_source", .leaf (.made .dataSource)),
    ("params", .leaf (.made .params)),
    ("use_case", .leaf .code),
    ("method", .leaf .code)])]

/-- What is known of a record: a model names its entity and decodes its fields. -/
def recordUses : RecordLayer → Shape UseKind
  | .entity => .object [
    ("name", .leaf (.made .entity)),
    ("identifiers", .list (.leaf .code)),
    ("fields", .list (.object [("identifier", .leaf .code), ("dart_type", .leaf .code)]))]
  | .model => .object [
    ("name", .leaf (.made .model)),
    ("base_name", .leaf (.made .entity)),
    ("fields", .list (.object [("identifier", .leaf .code), ("decode", .leaf .code)]))]

/-- What is known of the values that the templates of a layer read. -/
def uses : Layer → List (String × Shape UseKind)
  | .networkCore => [
    ("endpoint_constant", .leaf .code),
    ("base_url", .leaf .text),
    ("endpoint_path", .leaf .text),
    ("timeout", .leaf .code)]
  | .coreSupport => []
  | .domainEntity => nameUses ++ [("records", .list (recordUses .entity))]
  | .dataModel => nameUses ++ [("records", .list (recordUses .model))]
  | .dataDatasource => nameUses ++ [("wrap_list", .leaf .code)]
  | _ => nameUses

/-! ## Templates -/

/-- The lines of a template name classes only that the files of a layer may name. -/
def IsUsableIn (layer : Layer) (template : List Line) : Prop :=
  Line.passesAll (usesTest layer.visible) template (uses layer) = true

-- The literals are unfolded by rewriting: to evaluate one in the kernel takes far longer.
theorem core_isUsable :
    IsUsableIn .networkCore apiConstants ∧ IsUsableIn .networkCore dioClient ∧
      IsUsableIn .networkCore authorizationInterceptor ∧ IsUsableIn .networkCore networkInfo ∧
      IsUsableIn .networkCore networkService ∧ IsUsableIn .coreSupport exceptions ∧
      IsUsableIn .coreSupport failures ∧ IsUsableIn .coreSupport dataParser := by
  refine ⟨?_, ?_, ?_, ?_, ?_, ?_, ?_, ?_⟩ <;>
  · simp only [IsUsableIn, apiConstants, dioClient, authorizationInterceptor, networkInfo,
      networkService, exceptions, failures, dataParser, Line.passesAll, Line.passes, usesTest,
      Sketch.parts]
    simp -index only [String.toList_ofList]
    decide +kernel

theorem domain_isUsable :
    IsUsableIn .domainEntity entity ∧ IsUsableIn .domainRepositoryIface repository ∧
      IsUsableIn .domainUsecase useCase ∧ IsUsableIn .domainParams params := by
  refine ⟨?_, ?_, ?_, ?_⟩ <;>
  · simp only [IsUsableIn, entity, repository, useCase, params, fieldDeclarations, constructor,
      Line.passesAll, Line.passes, usesTest, Sketch.parts]
    simp -index only [String.toList_ofList]
    decide +kernel

theorem data_isUsable :
    IsUsableIn .dataModel model ∧ IsUsableIn .dataDatasource remoteDataSource ∧
      IsUsableIn .dataRepositoryImpl repositoryImpl := by
  refine ⟨?_, ?_, ?_⟩ <;>
  · simp only [IsUsableIn, model, remoteDataSource, repositoryImpl, constructor, Line.passesAll,
      Line.passes, usesTest, Sketch.parts]
    simp -index only [String.toList_ofList]
    decide +kernel

end Template

/-! ## Values of a plan -/

section

variable {visible : List ClassKind}

/-- A class name whose end shows the kind of the class. -/
theorem holds_made {front behind : String} (h : IsClassName front) {kind : ClassKind}
    (hbehind : behind.toList.all Char.isAlphanum = true) (hlength : 4 ≤ behind.toList.length)
    (hkind : endKind? behind.toList.reverse = some kind) :
    (UseKind.made kind).Holds visible (.string (front ++ behind)) :=
  ⟨_, rfl, (h.append (List.all_eq_true.1 hbehind)).isWord, (kindOf?_append h hlength).trans hkind⟩

/-- A class name whose end shows no kind is code of its own. -/
theorem holds_other {front behind : String} (h : IsClassName front)
    (hbehind : behind.toList.all Char.isAlphanum = true) (hlength : 4 ≤ behind.toList.length)
    (hkind : endKind? behind.toList.reverse = none) :
    UseKind.code.Holds visible (.string (front ++ behind)) := by
  have hfine : IsFine visible (front ++ behind) := by
    rw [IsFine, isFine, kindOf?_append h hlength, hkind]
    rfl
  exact .className (h.append (List.all_eq_true.1 hbehind)).isWord hfine

theorem holds_qualified {name : TypeName} (h : IsClassName name.logical) :
    (UseKind.made (.ofLayer name.layer)).Holds visible (.string name.qualified) :=
  ⟨_, rfl, TypeName.qualified_isWord h.isWord, kindOf?_qualified h⟩

/-- A name that is no class name is code of its own. -/
theorem holds_small {name : String} (hword : IsWord name) (h : StartsSmall name) :
    UseKind.code.Holds visible (.string name) :=
  .className hword (isFine_of_startsSmall h)

theorem holds_null : UseKind.code.Holds visible .null :=
  .className (by decide) rfl

theorem holds_bool (value : Bool) : UseKind.code.Holds visible (.bool value) := by
  cases value <;> exact .className (by decide) rfl

/-- Digits start no class name. -/
theorem reads_nat (n : Nat) : Reads visible .start (toString n).toList .done := by
  have hdigits : ∀ c ∈ (toString n).toList, c.isDigit = true := by
    rw [Nat.toString_eq_ofList_toDigits, String.toList_ofList]
    exact fun c hc => Nat.isDigit_of_mem_toDigits (Nat.succ_pos 9) (Nat.le_refl 10) hc
  have hname : ∀ c ∈ (toString n).toList, isNameChar c = true := fun c hc => by
    simp [isNameChar, Char.isAlphanum, hdigits c hc]
  have hupper : (toString n).toList.head?.any Char.isUpper = false := by
    rw [Option.any_eq_false]
    intro c hc
    have hdigit := hdigits c (List.mem_of_mem_head? hc)
    grind [Char.isUpper, Char.isDigit]
  refine Reads.settle (.of_run (Reads.run_word hname [])) ?_
  rw [List.append_nil, NameSketch.isSettled, isFine, kindOf?, List.getLast?_reverse, hupper]
  rfl

/-- A number may have a sign. -/
theorem holds_int (value : Int) : UseKind.code.Holds visible (.int value) := by
  cases value with
  | ofNat n => exact reads_nat n
  | negSucc n =>
    have hminus : Reads visible .start ['-'] .start := .of_run rfl
    have hsigned : (toString (Int.negSucc n)).toList = ['-'] ++ (toString (n + 1)).toList :=
      String.toList_append
    show Reads visible .start (toString (Int.negSucc n)).toList .done
    rw [hsigned]
    exact hminus.append (reads_nat (n + 1))

end

namespace Plan

variable {visible : List ClassKind} {feature : Feature} {root : TypeName}

/-- The context of a feature file holds what is known of it. -/
theorem alike_nameUses (hname : IsWord feature.name) (hpascal : IsClassName feature.pascalName)
    (hpath : Text.IsLine feature.path) (hroot : IsClassName root.logical)
    {more : List (String × Shape UseKind)} {added : Context}
    (h : ∀ member ∈ more, ∃ found, (baseContext feature root ++ added).lookup member.1 = some found ∧
      Alike (UseKind.Holds visible) member.2 found found) :
    Alike (UseKind.Holds visible) (.object (Template.nameUses ++ more))
      (.object (baseContext feature root ++ added)) (.object (baseContext feature root ++ added)) := by
  have hget : IsClassName ("Get" ++ feature.pascalName) :=
    IsClassName.append (by decide) hpascal.isAlphanum
  have hmethod : IsWord ("get" ++ feature.pascalName) := IsWord.append (by decide) hpascal.isWord
  have hconstant := endpointConstant_isAlphanum feature.path
  refine .of_forall ?_
  rw [List.forall_mem_append]
  constructor
  · -- What every feature file is given: the feature, its constant, and its class names.
    simp only [Template.nameUses, List.forall_mem_cons, List.not_mem_nil, false_imp_iff,
      implies_true, and_true]
    refine ⟨⟨_, _, rfl, rfl, .of_forall ?_⟩, ⟨_, _, rfl, rfl, .leaf ?_⟩,
      ⟨_, _, rfl, rfl, .of_forall ?_⟩⟩
    · simp only [List.forall_mem_cons, List.not_mem_nil, false_imp_iff, implies_true, and_true]
      exact ⟨⟨_, _, rfl, rfl, .leaf ⟨_, rfl, hname⟩⟩, ⟨_, _, rfl, rfl, .leaf ⟨_, rfl, hpath⟩⟩,
        ⟨_, _, rfl, rfl, .leaf ⟨_, rfl⟩⟩⟩
    · exact holds_small ⟨hconstant.1, fun c hc => .inl (hconstant.2 c hc)⟩
        (endpointConstant_startsSmall feature.path)
    · simp only [List.forall_mem_cons, List.not_mem_nil, false_imp_iff, implies_true, and_true]
      exact ⟨⟨_, _, rfl, rfl, .leaf (holds_qualified hroot)⟩,
        ⟨_, _, rfl, rfl, .leaf (holds_qualified hroot)⟩,
        ⟨_, _, rfl, rfl, .leaf (holds_made hpascal (by decide) (by decide) (by decide))⟩,
        ⟨_, _, rfl, rfl, .leaf (holds_made hpascal (by decide) (by decide) (by decide))⟩,
        ⟨_, _, rfl, rfl, .leaf (holds_made hget (by decide) (by decide) (by decide))⟩,
        ⟨_, _, rfl, rfl, .leaf (holds_other hget (by decide) (by decide) (by decide))⟩,
        ⟨_, _, rfl, rfl, .leaf (holds_small hmethod (StartsSmall.append (by decide) _))⟩⟩
  · intro member hmember
    obtain ⟨found, hfound, halike⟩ := h member hmember
    exact ⟨found, found, hfound, hfound, halike⟩

/-! ### Records -/

/-- What is written for a field names visible classes only. -/
structure IsWritable (visible : List ClassKind) (field : FieldDeclaration) : Prop where
  identifier : UseKind.code.Holds visible (.string field.identifier)
  type : UseKind.code.Holds visible (.string field.type.render)
  decoding : UseKind.code.Holds visible (ofOption (field.decoding.map Decoding.render))

theorem holds_identifiers (keys : List String) :
    ∀ name ∈ fieldIdentifiers keys, UseKind.code.Holds visible (.string name) :=
  fun name hname => holds_small (fieldIdentifiers_isWord keys name hname)
    (fieldIdentifiers_startsSmall keys name hname)

/-- The fields of a record, if the records that they are made of may be named. -/
theorem isWritable_of_mem_fieldsOf {fields : List (String × Schema)} (hkeys : Schema.AreTidy fields)
    (h : ∀ field ∈ fields, ∀ record ∈ field.2.records, IsNamable visible record.name)
    (decoders : Bool) : ∀ field ∈ RecordClass.fieldsOf decoders fields, IsWritable visible field := by
  intro field hfield
  obtain ⟨⟨⟨key, value⟩, identifier⟩, hpair, rfl⟩ := List.mem_map.1 hfield
  obtain ⟨hmem, hidentifier⟩ := List.of_mem_zip hpair
  have hkey := (Schema.areTidy_iff.1 hkeys _ hmem).1
  refine ⟨holds_identifiers _ identifier hidentifier, DartType.reads_ofField (h _ hmem), ?_⟩
  cases decoders with
  | false => exact holds_null
  | true => exact Decoding.reads_ofField hkey (h _ hmem)

section

variable {schema : Schema} (hnamed : ∀ record ∈ schema.records, IsClassName record.name.logical)
  (htidy : schema.IsTidy) {layer : RecordLayer} (hvisible : ClassKind.ofLayer layer ∈ visible)

include hnamed htidy hvisible

/-- The classes of a layer name visible classes only. -/
theorem isWritable_of_mem_recordClasses {decoders : Bool} {record : RecordClass}
    (h : record ∈ recordClasses schema layer decoders) :
    IsClassName record.name.logical ∧ record.name.layer = layer ∧
      (∀ name ∈ record.identifiers, UseKind.code.Holds visible (.string name)) ∧
      ∀ field ∈ record.fields, IsWritable visible field := by
  have hnamable : ∀ moved ∈ (schema.forLayer layer).records,
      IsClassName moved.name.logical ∧ moved.name.layer = layer := by
    rw [Schema.records_forLayer, List.forall_mem_map]
    exact fun origin horigin => ⟨hnamed origin horigin, rfl⟩
  obtain ⟨moved, hmoved, rfl⟩ := List.mem_map.1 h
  obtain ⟨hname, hlayer⟩ := hnamable moved hmoved
  have hkeys := ((htidy.forLayer layer).of_mem_records hmoved).2
  refine ⟨hname, hlayer, ?_, isWritable_of_mem_fieldsOf hkeys ?_ decoders⟩
  · rw [RecordClass.identifiers, RecordClass.ofRecord, RecordClass.identifiers_fieldsOf]
    exact holds_identifiers _
  · intro field hfield inner hinner
    obtain ⟨hclass, hmade⟩ := hnamable inner (Schema.mem_records_of_field hmoved hfield hinner)
    exact ⟨hclass, by rwa [hmade]⟩

end

theorem alike_entity {schema : Schema}
    (hnamed : ∀ record ∈ schema.records, IsClassName record.name.logical) (htidy : schema.IsTidy)
    (hvisible : .entity ∈ visible) {record : RecordClass}
    (h : record ∈ recordClasses schema .entity false) :
    Alike (UseKind.Holds visible) (Template.recordUses .entity) (recordValue record)
      (recordValue record) := by
  obtain ⟨hname, hlayer, hidentifiers, hfields⟩ :=
    isWritable_of_mem_recordClasses hnamed htidy hvisible h
  have hclass : (UseKind.made (.ofLayer record.name.layer)).Holds visible
      (.string record.name.qualified) := holds_qualified hname
  rw [hlayer] at hclass
  refine .of_forall ?_
  simp only [List.forall_mem_cons, List.not_mem_nil, false_imp_iff, implies_true, and_true]
  refine ⟨⟨_, _, rfl, rfl, .leaf hclass⟩,
    ⟨_, _, rfl, rfl, .map fun name hname => .leaf (hidentifiers name hname)⟩,
    ⟨_, _, rfl, rfl, .map fun field hfield => .of_forall ?_⟩⟩
  have hwritable := hfields field hfield
  simp only [List.forall_mem_cons, List.not_mem_nil, false_imp_iff, implies_true, and_true]
  exact ⟨⟨_, _, rfl, rfl, .leaf hwritable.identifier⟩, ⟨_, _, rfl, rfl, .leaf hwritable.type⟩⟩

theorem alike_model {schema : Schema}
    (hnamed : ∀ record ∈ schema.records, IsClassName record.name.logical) (htidy : schema.IsTidy)
    (hvisible : .model ∈ visible) {record : RecordClass}
    (h : record ∈ recordClasses schema .model true) :
    Alike (UseKind.Holds visible) (Template.recordUses .model) (recordValue record)
      (recordValue record) := by
  obtain ⟨hname, hlayer, -, hfields⟩ := isWritable_of_mem_recordClasses hnamed htidy hvisible h
  have hclass : (UseKind.made (.ofLayer record.name.layer)).Holds visible
      (.string record.name.qualified) := holds_qualified hname
  rw [hlayer] at hclass
  have hbase : record.base = some (record.name.forLayer .entity) := by
    obtain ⟨moved, -, rfl⟩ := List.mem_map.1 h
    rfl
  have hentity : (UseKind.made .entity).Holds visible
      (ofOption (record.base.map TypeName.qualified)) := by
    rw [hbase]
    have hlogical : IsClassName (record.name.forLayer .entity).logical := hname
    exact holds_qualified hlogical
  refine .of_forall ?_
  simp only [List.forall_mem_cons, List.not_mem_nil, false_imp_iff, implies_true, and_true]
  refine ⟨⟨_, _, rfl, rfl, .leaf hclass⟩, ⟨_, _, rfl, rfl, .leaf hentity⟩,
    ⟨_, _, rfl, rfl, .map fun field hfield => .of_forall ?_⟩⟩
  have hwritable := hfields field hfield
  simp only [List.forall_mem_cons, List.not_mem_nil, false_imp_iff, implies_true, and_true]
  exact ⟨⟨_, _, rfl, rfl, .leaf hwritable.identifier⟩, ⟨_, _, rfl, rfl, .leaf hwritable.decoding⟩⟩

end Plan

/-! ## Planned files -/

/-- A planned file has a content, which names visible classes only. -/
def Artifact.IsUsable (artifact : Artifact) : Prop :=
  ∃ content, artifact.render = .ok { artifact with content } ∧
    ∀ name ∈ names content, IsFine artifact.layer.visible name

/-- The names of a text stand in its lines. -/
theorem Dart.names_ofLines {lines : List String} (h : ∀ line ∈ lines, Text.IsLine line) :
    names (Text.ofLines lines) = lines.flatMap fun line => lineNames line.toList := by
  rw [names, Text.linesOf_ofLines h, List.flatMap_append, List.flatMap_map]
  exact List.append_nil _

theorem Artifact.isUsable_of_alike {artifact : Artifact} {template : List Line}
    (hmem : (artifact.template, template) ∈ Template.library)
    (husable : Template.IsUsableIn artifact.layer template)
    (h : Alike (UseKind.Holds artifact.layer.visible) (.object (Template.uses artifact.layer))
      (.object artifact.context) (.object artifact.context)) : artifact.IsUsable := by
  obtain ⟨lines, hlines, -, -, hgood⟩ := Line.exists_renders_of_passesAll usesTest_sound husable h
  refine ⟨Text.ofLines lines, ?_, ?_⟩
  · rw [Artifact.render, renderTemplate, Template.find?_of_mem hmem]
    simp only
    rw [hlines]
    rfl
  · rw [Dart.names_ofLines fun line hline => (hgood line hline).1]
    intro name hname
    obtain ⟨line, hline, hfound⟩ := List.mem_flatMap.1 hname
    exact (hgood line hline).2 name hfound

/-- A plan for a feature and a payload whose texts stay on their lines. -/
structure Plan.IsTidy (feature : Feature) (schema : Schema) : Prop where
  name : IsWord feature.name
  pascalName : IsClassName feature.pascalName
  records : ∀ record ∈ schema.records, IsClassName record.name.logical
  path : Text.IsLine feature.path
  base : ∀ address ∈ feature.baseUrl, Text.IsLine address
  keys : schema.IsTidy

section

variable {feature : Feature} {schema : Schema} (h : Plan.IsTidy feature schema)

include h

theorem coreArtifacts_isUsable (root : TypeName) (timeout : Int) :
    ∀ artifact ∈ Plan.coreArtifacts feature root timeout, artifact.IsUsable := by
  have hconstant := endpointConstant_isAlphanum feature.path
  have hbase : Text.IsLine ((feature.baseUrl.filter (· ≠ "")).getD defaultBaseUrl) := by
    cases hknown : feature.baseUrl.filter (· ≠ "") with
    | none => decide
    | some address => exact h.base address (Option.filter_eq_some_iff.1 hknown).1
  have hnetwork : Alike (UseKind.Holds []) (.object (Template.uses .networkCore))
      (.object (Plan.coreContext feature root timeout))
      (.object (Plan.coreContext feature root timeout)) := by
    refine .of_forall ?_
    simp only [Template.uses, List.forall_mem_cons, List.not_mem_nil, false_imp_iff, implies_true,
      and_true]
    exact ⟨⟨_, _, rfl, rfl, .leaf (holds_small ⟨hconstant.1, fun c hc => .inl (hconstant.2 c hc)⟩
        (endpointConstant_startsSmall feature.path))⟩,
      ⟨_, _, rfl, rfl, .leaf ⟨_, rfl, hbase⟩⟩, ⟨_, _, rfl, rfl, .leaf ⟨_, rfl, h.path⟩⟩,
      ⟨_, _, rfl, rfl, .leaf (holds_int timeout)⟩⟩
  -- The templates of the support files use nothing of their context.
  have hsupport : ∀ context : Context, Alike (UseKind.Holds []) (.object (Template.uses .coreSupport))
      (.object context) (.object context) := fun _ => .of_forall nofun
  obtain ⟨hconstants, hclient, hinterceptor, hinfo, hservice, hexceptions, hfailures, hparser⟩ :=
    Template.core_isUsable
  simp only [Plan.coreArtifacts, Plan.coreFiles, List.map_cons, List.map_nil, List.forall_mem_cons,
    List.not_mem_nil, false_imp_iff, implies_true, and_true]
  exact ⟨Artifact.isUsable_of_alike (by simp [Template.library]) hconstants hnetwork,
    Artifact.isUsable_of_alike (by simp [Template.library]) hclient hnetwork,
    Artifact.isUsable_of_alike (by simp [Template.library]) hinterceptor hnetwork,
    Artifact.isUsable_of_alike (by simp [Template.library]) hinfo hnetwork,
    Artifact.isUsable_of_alike (by simp [Template.library]) hservice hnetwork,
    Artifact.isUsable_of_alike (by simp [Template.library]) hexceptions (hsupport _),
    Artifact.isUsable_of_alike (by simp [Template.library]) hfailures (hsupport _),
    Artifact.isUsable_of_alike (by simp [Template.library]) hparser (hsupport _)⟩

variable {root : TypeName} (hroot : IsClassName root.logical)

include hroot

/-- A feature file is usable if what it reads of its own is as it should be. -/
theorem isUsable_of_added {path : String} {layer : Layer} {source : String} {template : List Line}
    {more : List (String × Shape UseKind)} {added : Context}
    (hmem : (source, template) ∈ Template.library) (husable : Template.IsUsableIn layer template)
    (huses : Template.uses layer = Template.nameUses ++ more)
    (hadded : ∀ member ∈ more, ∃ found,
      (Plan.baseContext feature root ++ added).lookup member.1 = some found ∧
        Alike (UseKind.Holds layer.visible) member.2 found found) :
    Artifact.IsUsable
      { path, layer, template := source, context := Plan.baseContext feature root ++ added } := by
  refine Artifact.isUsable_of_alike hmem husable ?_
  rw [huses]
  exact Plan.alike_nameUses h.name h.pascalName h.path hroot hadded

theorem domainArtifacts_isUsable : ∀ artifact ∈ Plan.domainArtifacts feature schema
    (Plan.baseContext feature root), artifact.IsUsable := by
  obtain ⟨hentity, hrepository, huseCase, hparams⟩ := Template.domain_isUsable
  simp only [Plan.domainArtifacts, List.forall_mem_cons, List.not_mem_nil, false_imp_iff,
    implies_true, and_true]
  refine ⟨isUsable_of_added h hroot (by simp [Template.library]) hentity rfl ?_,
    isUsable_of_added h hroot (by simp [Template.library]) hrepository rfl (by simp),
    isUsable_of_added h hroot (by simp [Template.library]) huseCase rfl (by simp),
    isUsable_of_added h hroot (by simp [Template.library]) hparams rfl (by simp)⟩
  exact List.forall_mem_singleton.2 ⟨_, rfl, .map fun record hrecord =>
    Plan.alike_entity h.records h.keys (by decide) hrecord⟩

theorem dataArtifacts_isUsable (wrapList : Bool) : ∀ artifact ∈ Plan.dataArtifacts feature schema
    (Plan.baseContext feature root) wrapList, artifact.IsUsable := by
  obtain ⟨hmodel, hsource, himplementation⟩ := Template.data_isUsable
  simp only [Plan.dataArtifacts, List.forall_mem_cons, List.not_mem_nil, false_imp_iff,
    implies_true, and_true]
  refine ⟨isUsable_of_added h hroot (by simp [Template.library]) hmodel rfl ?_,
    isUsable_of_added h hroot (by simp [Template.library]) hsource rfl ?_,
    isUsable_of_added h hroot (by simp [Template.library]) himplementation rfl (by simp)⟩
  · exact List.forall_mem_singleton.2 ⟨_, rfl, .map fun record hrecord =>
      Plan.alike_model h.records h.keys (by decide) hrecord⟩
  · exact List.forall_mem_singleton.2 ⟨_, rfl, .leaf (holds_bool wrapList)⟩

end

/-- **The files of a plan name classes only that their layers may name.** -/
theorem isUsable_of_planned {feature : Feature} {schema : Schema} (h : Plan.IsTidy feature schema)
    {wrapList : Bool} {timeout : Int} {planned : List Artifact}
    (hplanned : planArtifacts schema feature wrapList timeout = .ok planned) :
    ∀ artifact ∈ planned, artifact.IsUsable := by
  cases schema with
  | record root fields =>
    have hroot : IsClassName root.logical := h.records ⟨root, fields⟩ (by simp [Schema.records])
    cases hplanned
    rw [List.forall_mem_append, List.forall_mem_append]
    exact ⟨⟨coreArtifacts_isUsable h root timeout, domainArtifacts_isUsable h hroot⟩,
      dataArtifacts_isUsable h hroot wrapList⟩
  | scalar | list => cases hplanned

end DartLayers
