import DartLayers.Proofs.Plan.Sheets
import DartLayers.Proofs.Plan.Uses
import DartLayers.Proofs.Run.Contents

/-!
# DartLayers — closed plans

Every relative import of a generated file leads to another file of the same plan, and the classes of
the feature that a file names are declared in the file or in one that it imports. The first is so
for every endpoint and payload, the second as long as no text that is copied into the files holds a
line break.

* **`Sheet.Shows`** — what a rendered file shows of its sheet.
* **`sheets_reach`** — the classes that a file may name are in its reach.
* **`plan_closed`** — the rendered plans are closed.
-/

namespace DartLayers

open Dart

/-! ## Rendered files -/

/-- A rendered file stands where its sheet says, imports what the sheet says, declares the classes of
its layer and names those that its layer may name. -/
structure Sheet.Shows (feature : Feature) (schema : Schema) (sheet : Sheet) (file : Artifact) :
    Prop where
  path : file.path = "/".intercalate sheet.parts
  imports : relativeImports file.content = sheet.imports.map Hop.uri
  classes : Plan.IsTidy feature schema → ∀ kind ∈ sheet.layer.declares,
    ∀ name ∈ Plan.classNames feature schema kind, name ∈ declaredClasses file.content
  names : Plan.IsTidy feature schema → ∀ name ∈ names file.content,
    IsFine sheet.layer.visible name

section

variable {feature : Feature} (hfeature : IsWord feature.name)
  (hpascal : IsClassName feature.pascalName) {schema : Schema}
  (hnamed : ∀ record ∈ schema.records, IsClassName record.name.logical) {wrapList : Bool}
  {timeout : Int} {planned : List Artifact}
  (hplanned : planArtifacts schema feature wrapList timeout = .ok planned)

include hfeature hpascal hnamed hplanned

/-- **Every plan is rendered**, to files that show their sheets. -/
theorem exists_files :
    ∃ files, Artifact.renderAll planned = .ok files ∧
      List.Forall₂ (fun file sheet => sheet.Shows feature schema file) files
        (sheets feature.name) := by
  have hdescribes := planned_describes hfeature hpascal hnamed hplanned
  refine exists_renderAll ?_
  rw [List.forall₂_iff_zip] at hdescribes ⊢
  refine ⟨hdescribes.1, fun {artifact sheet} hpair => ?_⟩
  have hsheet := hdescribes.2 hpair
  have hmem := (List.of_mem_zip hpair).1
  obtain ⟨content, hcontent⟩ := planned_renders hplanned artifact hmem
  refine ⟨_, hcontent, hsheet.path, hsheet.imports content hcontent, fun htidy =>
    hsheet.classes htidy.keys content hcontent, fun htidy => ?_⟩
  obtain ⟨text, htext, hnames⟩ := isUsable_of_planned htidy hplanned artifact hmem
  rw [hcontent, Except.ok.injEq] at htext
  rw [← hsheet.layer, congrArg Artifact.content htext]
  exact hnames

end

/-! ## Reach -/

/-- **What a file may name is in its reach**: its own layer declares it, or that of a file that it
imports. -/
theorem sheets_reach (name : String) : ∀ sheet ∈ sheets name, ∀ kind ∈ sheet.layer.visible,
    sheet.layer.declares = some kind ∨ ∃ hop ∈ sheet.imports, ∃ other ∈ sheets name,
      other.parts = hop.target sheet.parts ∧ other.layer.declares = some kind := by
  have hcore : ∀ sheet ∈ coreSheets, sheet.layer.visible = [] := by decide
  rw [sheets, List.forall_mem_append]
  constructor
  · intro sheet hsheet kind hkind
    rw [hcore sheet hsheet] at hkind
    cases hkind
  · simp [coreSheets, featureSheets, Layer.visible, Layer.declares, Hop.target, Hop.toCore]

/-- A class that a file may name: it is declared in the file, or in one that the file imports. -/
def IsInReach (files : List Artifact) (file : Artifact) (name : String) : Prop :=
  name ∈ declaredClasses file.content ∨ ∃ uri ∈ relativeImports file.content, ∃ other ∈ files,
    other.path = resolveImport file.path uri ∧ name ∈ declaredClasses other.content

/-- The names of the classes show their kinds. -/
theorem kindOf?_of_mem_classNames {feature : Feature} (hpascal : IsClassName feature.pascalName)
    {schema : Schema} (hnamed : ∀ record ∈ schema.records, IsClassName record.name.logical)
    {kind : ClassKind} {name : String} (hname : name ∈ Plan.classNames feature schema kind) :
    kindOf? name.toList.reverse = some kind := by
  have hget : IsClassName ("Get" ++ feature.pascalName) :=
    IsClassName.append (by decide) hpascal.isAlphanum
  cases kind with
  | entity | model =>
    obtain ⟨record, hrecord, rfl⟩ := List.mem_map.1 hname
    exact kindOf?_qualified (hnamed record hrecord)
  | repository | dataSource =>
    rw [List.mem_singleton.1 hname, kindOf?_append hpascal (by decide)]
    decide
  | params =>
    rw [List.mem_singleton.1 hname, kindOf?_append hget (by decide)]
    decide

section

variable {feature : Feature} (hfeature : IsWord feature.name) {schema : Schema}
  {files : List Artifact} (hfiles : List.Forall₂
    (fun file sheet => sheet.Shows feature schema file) files (sheets feature.name))

include hfeature hfiles

/-- A hop on a sheet leads to a file. -/
theorem exists_imported {sheet : Sheet} (hsheet : sheet ∈ sheets feature.name) {hop : Hop}
    (hhop : hop ∈ sheet.imports) {other : Sheet} (hother : other ∈ sheets feature.name)
    (hparts : other.parts = hop.target sheet.parts) {file : Artifact}
    (hfile : sheet.Shows feature schema file) :
    ∃ imported ∈ files, imported.path = resolveImport file.path hop.uri ∧
      other.Shows feature schema imported := by
  have hread : pathParts ("/".intercalate sheet.parts) = sheet.parts :=
    pathParts_planned hfeature (List.mem_map_of_mem hsheet)
  obtain ⟨imported, himported, hshows⟩ := exists_partner hfiles hother
  refine ⟨imported, himported, ?_, hshows⟩
  rw [hshows.path, hparts, hfile.path,
    Hop.resolveImport_uri (isPlain_of_mem_imports hfeature hsheet hhop) hread]

/-- **The imports of a rendered plan lead to its files**, and none to the importing one. -/
theorem imports_resolve : ∀ file ∈ files, ∀ uri ∈ relativeImports file.content,
    ∃ other ∈ files, other.path ≠ file.path ∧ other.path = resolveImport file.path uri := by
  intro file hfile uri huri
  obtain ⟨sheet, hsheet, hshows⟩ := exists_partner hfiles.flip hfile
  rw [hshows.imports] at huri
  obtain ⟨hop, hhop, rfl⟩ := List.mem_map.1 huri
  obtain ⟨-, other, hother, hparts, hne⟩ := sheets_closed feature.name sheet hsheet hop hhop
  obtain ⟨imported, himported, hpath, hsame⟩ :=
    exists_imported hfeature hfiles hsheet hhop hother hparts hshows
  refine ⟨imported, himported, fun heq => hne ?_, hpath⟩
  rw [hsame.path, hshows.path] at heq
  have hboth := congrArg pathParts heq
  rwa [pathParts_planned hfeature (List.mem_map_of_mem hother),
    pathParts_planned hfeature (List.mem_map_of_mem hsheet)] at hboth

/-- **The classes that a file names are in its reach.** -/
theorem isInReach_of_mem_names (htidy : Plan.IsTidy feature schema) {file : Artifact}
    (hfile : file ∈ files) {kind : ClassKind} {name : String}
    (hname : name ∈ Plan.classNames feature schema kind) (hused : name ∈ names file.content) :
    IsInReach files file name := by
  obtain ⟨sheet, hsheet, hshows⟩ := exists_partner hfiles.flip hfile
  have hvisible : kind ∈ sheet.layer.visible := by
    have hfine := hshows.names htidy name hused
    rw [IsFine, isFine, kindOf?_of_mem_classNames htidy.pascalName htidy.records hname] at hfine
    simpa using hfine
  rcases sheets_reach feature.name sheet hsheet kind hvisible with hown | hreach
  · exact .inl (hshows.classes htidy kind hown name hname)
  · obtain ⟨hop, hhop, other, hother, hparts, hdeclares⟩ := hreach
    obtain ⟨imported, himported, hpath, hsame⟩ :=
      exists_imported hfeature hfiles hsheet hhop hother hparts hshows
    refine .inr ⟨hop.uri, ?_, imported, himported, hpath, hsame.classes htidy kind hdeclares name hname⟩
    rw [hshows.imports]
    exact List.mem_map_of_mem hhop

end

/-! ## The constant -/

/-- **The registry and the data source** of a rendered plan: the data source imports the registry, and
each is rendered from its template. -/
theorem exists_registry {feature : Feature} (hfeature : IsWord feature.name) {root : TypeName}
    {fields : List (String × Schema)} {wrapList : Bool} {timeout : Int}
    {planned files : List Artifact}
    (hplanned : planArtifacts (.record root fields) feature wrapList timeout = .ok planned)
    (hrender : Artifact.renderAll planned = .ok files)
    (hfiles : List.Forall₂ (fun file sheet => sheet.Shows feature (.record root fields) file) files
      (sheets feature.name)) :
    ∃ registry ∈ files, ∃ source ∈ files, registry.path = registryPath ∧
      source.path = dataSourcePath feature.name ∧
      (∃ uri ∈ relativeImports source.content, registry.path = resolveImport source.path uri) ∧
      renderTemplate "core/network/api_constants.dart.j2" (Plan.coreContext feature root timeout) =
        .ok registry.content ∧
      renderTemplate "feature/data/remote_data_source.dart.j2"
        (Plan.baseContext feature root ++ [("wrap_list", .bool wrapList)]) = .ok source.content := by
  have hsourceSheet : _ ∈ sheets feature.name := List.mem_of_getElem? (i := 13) rfl
  have hregistrySheet : _ ∈ sheets feature.name := List.mem_of_getElem? (i := 0) rfl
  obtain ⟨source, hsource, hshows⟩ := exists_partner hfiles hsourceSheet
  obtain ⟨registry, hregistry, hpath, hsame⟩ := exists_imported hfeature hfiles hsourceSheet
    (List.mem_of_getElem? (i := 1) rfl) hregistrySheet (by simp [Hop.target, Hop.toCore]) hshows
  -- No two files of a plan have the same path, so each is rendered from the template of its place.
  have hnodup : (planned.map Artifact.path).Nodup := by
    rw [planArtifacts_paths hplanned]
    exact plannedPaths_nodup hfeature
  cases hplanned
  refine ⟨registry, hregistry, source, hsource, hsame.path, hshows.path, ⟨_, ?_, hpath⟩, ?_, ?_⟩
  · rw [hshows.imports]
    exact List.mem_cons_of_mem _ List.mem_cons_self
  · exact rendered_of_path hnodup hrender
      (List.mem_append_left _ (List.mem_append_left _ List.mem_cons_self)) hregistry
      (by simp [hsame.path])
  · exact rendered_of_path hnodup hrender
      (List.mem_append_right _ (List.mem_cons_of_mem _ List.mem_cons_self)) hsource
      (by simp [hshows.path, ← String.toList_inj])

/-- The data source of a feature refers to the constant of the feature. -/
theorem references_rendered {feature : Feature} (hfeature : IsWord feature.name)
    (hpascal : IsClassName feature.pascalName) {root : TypeName} (hroot : IsClassName root.logical)
    {wrapList : Bool} {text : String}
    (htext : renderTemplate "feature/data/remote_data_source.dart.j2"
      (Plan.baseContext feature root ++ [("wrap_list", .bool wrapList)]) = .ok text) :
    references text = [feature.endpointConstant] := by
  have hnoDot : ∀ {text : String}, IsWord text → '.' ∉ text.toList := fun hword =>
    dot_notMem hword.isNameChar
  exact references_dataSource (hnoDot hfeature) (hnoDot hpascal.isWord) (hnoDot hroot.isWord)
    (isNameChar_of_isAlphanum (endpointConstant_isAlphanum feature.path).2) htext

/-- **The constant that the data source refers to** is declared in the registry, which the data
source imports. -/
theorem exists_constant {feature : Feature} (hfeature : IsWord feature.name)
    (hpascal : IsClassName feature.pascalName) {root : TypeName} {fields : List (String × Schema)}
    (hroot : IsClassName root.logical) {wrapList : Bool} {timeout : Int}
    {planned files : List Artifact}
    (hplanned : planArtifacts (.record root fields) feature wrapList timeout = .ok planned)
    (hrender : Artifact.renderAll planned = .ok files)
    (hfiles : List.Forall₂ (fun file sheet => sheet.Shows feature (.record root fields) file) files
      (sheets feature.name)) :
    ∃ registry ∈ files, ∃ source ∈ files, registry.path = registryPath ∧
      source.path = dataSourcePath feature.name ∧
      (∃ uri ∈ relativeImports source.content, registry.path = resolveImport source.path uri) ∧
      references source.content = [feature.endpointConstant] ∧
      feature.endpointConstant ∈ declarations registry.content := by
  obtain ⟨registry, hregistry, source, hsource, hplace, hsourcePlace, himport, hdeclares, hrefers⟩ :=
    exists_registry hfeature hplanned hrender hfiles
  obtain ⟨hconstant, halnum⟩ := endpointConstant_isAlphanum feature.path
  refine ⟨registry, hregistry, source, hsource, hplace, hsourcePlace, himport,
    references_rendered hfeature hpascal hroot hrefers, ?_⟩
  rw [declarations_registry hconstant (isNameChar_of_isAlphanum halnum) hdeclares]
  exact List.mem_cons_of_mem _ List.mem_cons_self

/-! ## Plans -/

/-- **Every rendered plan is closed.** For every endpoint and every payload the plan is rendered,
with the planned paths in their order. A relative import leads to another file of the plan. If no
line break stands in the path, the base address and the keys, a class of the feature that a file
names is declared in the file or in one that it imports. The constant that the data source refers to
is declared in the registry. -/
theorem plan_closed {endpoint : String} {method : HttpMethod} {base : Option String}
    {feature : Feature} (hfeature : Feature.ofEndpoint endpoint method base = .ok feature)
    (members : List (String × Json)) (wrapList : Bool) (timeout : Int) :
    let schema := Schema.infer feature.name .entity [] (.object members)
    ∃ planned files, planArtifacts schema feature wrapList timeout = .ok planned ∧
      Artifact.renderAll planned = .ok files ∧
      files.map Artifact.path = planned.map Artifact.path ∧
      (∀ file ∈ files, ∀ uri ∈ relativeImports file.content,
        ∃ other ∈ files, other.path ≠ file.path ∧ other.path = resolveImport file.path uri) ∧
      (feature.pascalName ++ "ResponseEntity" ∈ Plan.classNames feature schema .entity ∧
        feature.pascalName ++ "ResponseModel" ∈ Plan.classNames feature schema .model) ∧
      (Text.IsLine feature.path → (∀ address ∈ feature.baseUrl, Text.IsLine address) →
        (∀ key ∈ (Json.object members).keys, Text.IsLine key) →
        ∀ file ∈ files, ∀ kind, ∀ name ∈ Plan.classNames feature schema kind,
          name ∈ names file.content → IsInReach files file name) ∧
      ∃ registry ∈ files, ∃ source ∈ files, registry.path = registryPath ∧
        source.path = dataSourcePath feature.name ∧
        (∃ uri ∈ relativeImports source.content, registry.path = resolveImport source.path uri) ∧
        references source.content = [feature.endpointConstant] ∧
        feature.endpointConstant ∈ declarations registry.content := by
  intro schema
  have hnames := Feature.isNamed_of_ofEndpoint hfeature
  have hword := hnames.isWord
  have hpascal := hnames.isClassName
  have hnamed : ∀ record ∈ schema.records, IsClassName record.name.logical :=
    fun _ hrecord => Schema.isClassName_of_mem_records hrecord
  -- Planning never fails, and what is planned can be rendered since its names are class names and
  -- words.
  obtain ⟨planned, hplanned⟩ : ∃ planned, planArtifacts schema feature wrapList timeout = .ok planned :=
    ⟨_, rfl⟩
  obtain ⟨files, hrender, hfiles⟩ := exists_files hword hpascal hnamed hplanned
  refine ⟨planned, files, hplanned, hrender, renderAll_paths hrender, imports_resolve hword hfiles,
    ?_, fun hpath hbase hkeys => ?_, ?_⟩
  · -- The root record is the last one of the schema, so it has a class in either layer.
    have hmem : (⟨recordName feature.name [] .entity, _⟩ : RecordSchema) ∈ schema.records :=
      List.mem_append_right _ List.mem_cons_self
    have hclass : ∀ layer : RecordLayer, ((recordName feature.name [] .entity).forLayer layer).qualified =
        feature.pascalName ++ ("Response" ++ layer.suffix) := by
      intro layer
      show (recordName feature.name [] .entity).logical ++ layer.suffix = _
      rw [hnames.rootName_eq, String.append_assoc]
    exact ⟨List.mem_map.2 ⟨_, hmem, hclass .entity⟩, List.mem_map.2 ⟨_, hmem, hclass .model⟩⟩
  · have htidy : Plan.IsTidy feature schema :=
      ⟨hword, hpascal, hnamed, hpath, hbase, Schema.isTidy_infer [] (.object members) hkeys⟩
    exact fun file hfile kind name hmem hused =>
      isInReach_of_mem_names hword hfiles htidy hfile hmem hused
  · -- The registry and the data source are planned for the same constant.
    exact exists_constant hword hpascal (hnamed _ (List.mem_append_right _ List.mem_cons_self))
      hplanned hrender hfiles

/-- A payload with records in lists of lists, and with a key that needs escapes. -/
def nestedMembers : List (String × Json) := [
  ("user", .object [("id", .int 1)]),
  ("data", .array [.array [.object [("it's $x", .null)]]])]

theorem nestedMembers_closed :
    let feature := Feature.ofParts "/order-items".toList "page=1".toList .delete (some "https://h")
    let schema := Schema.infer feature.name .entity [] (.object nestedMembers)
    Feature.ofEndpoint "https://h/order-items?page=1" .delete none = .ok feature ∧
      Plan.classNames feature schema .entity =
        ["UserEntity", "DataEntity", "OrderItemsResponseEntity"] ∧
      ∃ planned files, planArtifacts schema feature true 30 = .ok planned ∧
        Artifact.renderAll planned = .ok files ∧
        (∀ file ∈ files, ∀ uri ∈ relativeImports file.content,
          ∃ other ∈ files, other.path ≠ file.path ∧ other.path = resolveImport file.path uri) ∧
        ∀ file ∈ files, ∀ kind, ∀ name ∈ Plan.classNames feature schema kind,
          name ∈ names file.content → IsInReach files file name := by
  intro feature schema
  have hfeature : Feature.ofEndpoint "https://h/order-items?page=1" .delete none = .ok feature := by
    decide +kernel
  obtain ⟨planned, files, hplanned, hrender, -, himports, -, huses, -⟩ :=
    plan_closed hfeature nestedMembers true 30
  have hpath : Text.IsLine feature.path := by decide +kernel
  have hbase : ∀ address ∈ feature.baseUrl, Text.IsLine address := by decide +kernel
  have hkeys : ∀ key ∈ (Json.object nestedMembers).keys, Text.IsLine key := by decide +kernel
  exact ⟨hfeature, by decide +kernel, planned, files, hplanned, hrender, himports,
    huses hpath hbase hkeys⟩

/-- The parameters file for a path with a line break: the rest of the path is code. -/
def brokenParams : String :=
  Text.ofLines [
    "import 'package:equatable/equatable.dart';",
    "",
    "class GetUsersParams extends Equatable \x7b",
    "  // Define the request parameters GET /users/\nUsersRepository x; // expects.",
    "",
    "  const GetUsersParams();",
    "",
    "  @override",
    "  List<Object?> get props => [];",
    "",
    "  Map<String, dynamic> toJson() => <String, dynamic>\x7b",
    "        // 'key': value,",
    "      \x7d;",
    "\x7d"]

theorem names_brokenParams : "UsersRepository" ∈ names brokenParams ∧
    relativeImports brokenParams = [] ∧ declaredClasses brokenParams = ["GetUsersParams"] := by
  refine ⟨?_, ?_, ?_⟩ <;>
  · simp only [names, relativeImports, declaredClasses, importUri?, brokenParams, Text.linesOf,
      Text.ofLines, String.toList_append]
    simp -index only [String.toList_ofList]
    decide +kernel

/-- **A line break in the path of an endpoint** ends the comment that the path is copied into: the
file names a class that is not in its reach. -/
theorem brokenPath_not_closed :
    let endpoint := "/users/\nUsersRepository x; //"
    let feature := Feature.ofParts endpoint.toList [] .get none
    let schema := Schema.infer feature.name .entity [] (.object [])
    Feature.ofEndpoint endpoint .get none = .ok feature ∧
      Plan.classNames feature schema .repository = ["UsersRepository"] ∧
      ∃ planned files, planArtifacts schema feature false 30 = .ok planned ∧
        Artifact.renderAll planned = .ok files ∧
        ∃ file ∈ files, file.path = "lib/feature/users/domain/usecases/get_users_params.dart" ∧
          "UsersRepository" ∈ names file.content ∧ ¬ IsInReach files file "UsersRepository" := by
  intro endpoint feature schema
  have hfeature : Feature.ofEndpoint endpoint .get none = .ok feature := by decide +kernel
  have hname : feature.name = "users" := by decide +kernel
  have hword : IsWord feature.name := by rw [hname]; decide
  have hpascal : IsClassName feature.pascalName := by decide +kernel
  have hnamed : ∀ record ∈ schema.records, IsClassName record.name.logical := by decide +kernel
  obtain ⟨planned, hplanned⟩ : ∃ planned, planArtifacts schema feature false 30 = .ok planned :=
    ⟨_, rfl⟩
  obtain ⟨files, hrender, hfiles⟩ := exists_files hword hpascal hnamed hplanned
  -- The twelfth file holds the path in a comment; behind its line break the comment is code.
  have hsheet : _ ∈ sheets feature.name := List.mem_of_getElem? (i := 11) rfl
  obtain ⟨file, hfile, hshows⟩ := exists_partner hfiles hsheet
  have hpath : file.path = "lib/feature/users/domain/usecases/get_users_params.dart" := by
    rw [hshows.path, hname]
    decide +kernel
  have hcontent : file.content = brokenParams := by
    have hnodup : (planned.map Artifact.path).Nodup := by
      rw [planArtifacts_paths hplanned]
      exact plannedPaths_nodup hword
    have hmem : ("feature/domain/params.dart.j2", Template.params) ∈ Template.library := by
      simp [Template.library]
    have hparams : renderTemplate "feature/domain/params.dart.j2"
        (Plan.baseContext feature (recordName feature.name [] .entity)) = .ok brokenParams := by
      rw [renderTemplate, Template.find?_of_mem hmem]
      decide +kernel
    cases hplanned
    have htext := rendered_of_path hnodup hrender (List.mem_append_left _ (List.mem_append_right _
      (List.mem_of_getElem? (i := 3) rfl))) hfile (by simp [hshows.path, ← String.toList_inj])
    exact Except.ok.inj (htext.symm.trans hparams)
  obtain ⟨hnamed, himports, hclasses⟩ := names_brokenParams
  refine ⟨hfeature, by decide +kernel, planned, files, hplanned, hrender, file, hfile, hpath, ?_, ?_⟩
  · rwa [hcontent]
  · rw [IsInReach, hcontent, himports, hclasses]
    rintro (hown | ⟨uri, huri, -⟩)
    · exact absurd hown (by decide)
    · cases huri

end DartLayers
