import DartLayers.Proofs.Plan.Independence
import DartLayers.Proofs.Plan.Safety
import DartLayers.Proofs.Template.Breaks
import DartLayers.Proofs.Template.Copies

/-!
# DartLayers — the line structure of generated files

Every generated file has as many lines as the method, the form of the sample and the numbers of
fields say. The texts that are copied from the endpoint, the base address and the payload have their
place inside these lines, but a line break in such a text is copied as well: it starts a line of its
own, outside of the literal or the comment that the text belongs to.

* **`Plan.heights`**, **`Plan.copies`** — the lines of the files, and the texts that are copied.
* **`files_breaks_iff`** — the line breaks of the files are those of the two.
-/

namespace DartLayers

open Dart

namespace Plan

/-! ## Heights and copies -/

/-- How many lines the data source takes. -/
def dataSourceHeight (method : HttpMethod) (wrapList : Bool) : Nat :=
  (match method with
    | .get => 35
    | .post | .put => 37
    | .delete => 38) + if wrapList then 3 else 0

/-- The templates of the core, in plan order, with the lines that their files take. -/
def coreHeights : List (String × Nat) := [
  ("core/network/api_constants.dart.j2", 11),
  ("core/network/dio_client.dart.j2", 150),
  ("core/network/interceptor/authorization_interceptor.dart.j2", 23),
  ("core/network/network_info.dart.j2", 17),
  ("core/network/network_service.dart.j2", 16),
  ("core/error/exceptions.dart.j2", 42),
  ("core/error/failures.dart.j2", 19),
  ("core/utils/data_parser.dart.j2", 51)]

/-- The templates of the domain layer, with the lines that their files take. -/
def domainHeights (counts : List Nat) : List (String × Nat) := [
  ("feature/domain/entity.dart.j2", RecordClass.entityHeight counts),
  ("feature/domain/repository.dart.j2", 10),
  ("feature/domain/use_case.dart.j2", 17),
  ("feature/domain/params.dart.j2", 14)]

/-- The templates of the data layer, with the lines that their files take. -/
def dataHeights (method : HttpMethod) (wrapList : Bool) (counts : List Nat) : List (String × Nat) := [
  ("feature/data/model.dart.j2", RecordClass.modelHeight counts),
  ("feature/data/remote_data_source.dart.j2", dataSourceHeight method wrapList),
  ("feature/data/repository_impl.dart.j2", 29)]

/-- The templates of a plan, with the lines that their files take: the method, the form of the sample
and the numbers of fields determine them. -/
def heights (method : HttpMethod) (wrapList : Bool) (counts : List Nat) : List (String × Nat) :=
  coreHeights ++ domainHeights counts ++ dataHeights method wrapList counts

/-- The keys that the models copy, in order. -/
def copiedKeys (schema : Schema) : List String :=
  (recordClasses schema .model true).flatMap RecordClass.copies

/-- The texts that the core copies: the registry has the base address and the path. -/
def coreCopies (feature : Feature) : List (List String) :=
  [[registeredBase feature, feature.path], [], [], [], [], [], [], []]

/-- The texts that the domain layer copies: the parameters have the path. -/
def domainCopies (feature : Feature) : List (List String) :=
  [[], [], [], [feature.path]]

/-- The texts that the data layer copies: the models have the keys. -/
def dataCopies (schema : Schema) : List (List String) :=
  [copiedKeys schema, [], []]

/-- The texts of the endpoint, of the base address and of the payload that are copied into the files
of a plan. -/
def copies (feature : Feature) (schema : Schema) : List (List String) :=
  coreCopies feature ++ domainCopies feature ++ dataCopies schema

/-- The numbers of fields of the records. -/
def fieldCounts (schema : Schema) : List Nat :=
  schema.records.map fun record => record.fields.length

theorem fieldCounts_eq (schema : Schema) (layer : RecordLayer) (decoders : Bool) :
    (recordClasses schema layer decoders).map RecordClass.fieldCount = fieldCounts schema := by
  rw [recordClasses, Schema.records_forLayer, fieldCounts, List.map_map, List.map_map]
  refine List.map_congr_left fun record _ => ?_
  have hkeys := congrArg List.length (RecordClass.keys_fieldsOf decoders (record.forLayer layer).fields)
  rw [List.length_map, List.length_map] at hkeys
  simp only [Function.comp_apply, RecordClass.fieldCount, RecordClass.ofRecord, hkeys]
  simp [RecordSchema.forLayer, Schema.fieldsForLayer_eq_map]

/-- The keys that are copied are those of the records. -/
theorem mem_copiedKeys {schema : Schema} {text : String} :
    text ∈ copiedKeys schema ↔ ∃ record ∈ schema.records, text ∈ record.keys := by
  rw [copiedKeys, recordClasses, Schema.records_forLayer, List.flatMap_map, List.flatMap_map,
    List.mem_flatMap]
  refine exists_congr fun record => and_congr_right fun _ => ?_
  rw [RecordClass.mem_copies_ofRecord]
  simp [RecordSchema.keys, RecordSchema.forLayer, Schema.keys_fieldsForLayer]

end Plan

/-- A file is written from a template and takes so many lines, besides the line breaks of the texts
that are copied into it. If these have none, each of them stands in a literal or in a comment. -/
structure Artifact.Fits (file : Artifact) (height : String × Nat) (copies : List String) : Prop where
  template : file.template = height.1
  breaks : Text.breaks file.content = height.2 + Text.breaksOf copies
  encloses : (∀ text ∈ copies, Text.IsLine text) → Encloses file.content copies

/-! ## Files one by one -/

section

variable {artifact : Artifact} {template : List Line}
  (hmem : (artifact.template, template) ∈ Template.library)

include hmem

theorem exists_fits_of_renders {lines : List String} (hlines : Renders template artifact.context lines)
    {height : Nat} {copies : List String}
    (hbreaks : Text.breaks (Text.ofLines lines) = height + Text.breaksOf copies)
    (hencloses : (∀ text ∈ copies, Text.IsLine text) → Encloses (Text.ofLines lines) copies) :
    ∃ file, artifact.render = .ok file ∧ file.Fits (artifact.template, height) copies := by
  refine ⟨{ artifact with content := Text.ofLines lines }, ?_, rfl, hbreaks, hencloses⟩
  rw [Renders] at hlines
  rw [Artifact.render, renderTemplate, Template.find?_of_mem hmem]
  simp only [hlines, Except.map]

/-- A template that puts quiet values only has nothing to copy. -/
theorem exists_fits_of_quiet {shapes : List (String × Shape QuietKind)}
    (hquiet : Template.IsQuiet shapes template)
    (halike : Alike QuietKind.Holds (.object shapes) (.object artifact.context)
      (.object artifact.context))
    {height : Nat} (hheight : Line.heightAll template artifact.context = .ok height) :
    ∃ file, artifact.render = .ok file ∧ file.Fits (artifact.template, height) [] := by
  obtain ⟨content, hcontent, hbreaks⟩ :=
    renderTemplate_breaks (Template.find?_of_mem hmem) hquiet halike
  rw [hheight, Except.ok.injEq] at hbreaks
  refine ⟨{ artifact with content }, ?_, rfl, hbreaks.symm, fun _ => encloses_nil content⟩
  rw [Artifact.render, hcontent]
  rfl

end

/-- A number is written on one line. -/
theorem isLine_int (value : Int) : Text.IsLine (Json.int value).display := by
  have hdigits : ∀ n : Nat, Text.IsLine (toString n) := by
    intro n c hc
    have halnum := mem_toString_nat hc
    constructor <;> rintro rfl <;> exact absurd halnum (by decide)
  cases value with
  | ofNat n => exact hdigits n
  | negSucc n =>
    have hsigned : (Json.int (Int.negSucc n)).display = "-" ++ toString (n + 1) := rfl
    rw [hsigned, Text.isLine_append]
    exact ⟨by decide, hdigits (n + 1)⟩

/-- Planned files fit what is known of them, file by file. -/
def Plan.AllFit (planned : List Artifact) (heights : List (String × Nat))
    (copies : List (List String)) : Prop :=
  List.Forall₂ (fun artifact entry => ∃ file, artifact.render = .ok file ∧
    file.Fits entry.1 entry.2) planned (heights.zip copies)

theorem endpointConstant_isWord (feature : Feature) : IsWord feature.endpointConstant :=
  ⟨(endpointConstant_isAlphanum feature.path).1,
    fun c hc => .inl ((endpointConstant_isAlphanum feature.path).2 c hc)⟩

/-- The core: only the registry copies texts. -/
theorem coreArtifacts_fit (feature : Feature) (root : TypeName) (timeout : Int) :
    Plan.AllFit (Plan.coreArtifacts feature root timeout) Plan.coreHeights
      (Plan.coreCopies feature) := by
  have hconstant := endpointConstant_isWord feature
  have hregistry : Text.breaks (Text.ofLines (Plan.registryLines feature)) =
      11 + Text.breaksOf [Plan.registeredBase feature, feature.path] := by
    rw [Text.breaks_ofLines, breaksOf_registryLines hconstant]
    rfl
  have hnone : Alike QuietKind.Holds (.object []) (.object (Plan.coreContext feature root timeout))
      (.object (Plan.coreContext feature root timeout)) := .of_forall (by simp)
  have htimeout : Alike QuietKind.Holds (.object [("timeout", .leaf .line)])
      (.object (Plan.coreContext feature root timeout))
      (.object (Plan.coreContext feature root timeout)) := by
    refine .of_forall ?_
    rw [List.forall_mem_singleton]
    exact ⟨_, _, rfl, rfl, .leaf (isLine_int timeout)⟩
  -- The registry alone writes texts that may hold breaks; the other templates are quiet.
  obtain ⟨hclient, hinterceptor, hinfo, hservice, hexceptions, hfailures, hparser⟩ :=
    Template.core_isQuiet
  refine .cons ?_ (.cons ?_ (.cons ?_ (.cons ?_ (.cons ?_ (.cons ?_ (.cons ?_ (.cons ?_ .nil)))))))
  · refine exists_fits_of_renders ?_ (?_ : Renders Template.apiConstants _ _) hregistry ?_
    · simp [Template.library]
    · exact renders_registry root hconstant.1 timeout
    · exact fun h => encloses_registry hconstant (h _ (by simp)) (h _ (by simp))
  · exact exists_fits_of_quiet (by simp [Template.library]) hclient htimeout rfl
  · exact exists_fits_of_quiet (by simp [Template.library]) hinterceptor hnone rfl
  · exact exists_fits_of_quiet (by simp [Template.library]) hinfo hnone rfl
  · exact exists_fits_of_quiet (by simp [Template.library]) hservice hnone rfl
  · exact exists_fits_of_quiet (by simp [Template.library]) hexceptions hnone rfl
  · exact exists_fits_of_quiet (by simp [Template.library]) hfailures hnone rfl
  · exact exists_fits_of_quiet (by simp [Template.library]) hparser hnone rfl

/-- The data source has the lines of its method, and those for a list. -/
theorem height_dataSource (feature : Feature) (root : TypeName) (wrapList : Bool) :
    Line.heightAll Template.remoteDataSource
      (Plan.baseContext feature root ++ [("wrap_list", .bool wrapList)]) =
        .ok (Plan.dataSourceHeight feature.method wrapList) := by
  obtain ⟨name, pascalName, path, method, baseUrl, query⟩ := feature
  cases method <;> cases wrapList <;> rfl

section

variable {feature : Feature} (hname : IsWord feature.name) (hpascal : IsWord feature.pascalName)

include hname hpascal

/-- The names of a feature and of its classes are quiet. -/
theorem Plan.alike_quietNames {root : TypeName} (hroot : IsWord root.logical)
    {more : List (String × Shape QuietKind)} {added : Context}
    (h : ∀ member ∈ more, ∃ found, (baseContext feature root ++ added).lookup member.1 = some found ∧
      Alike QuietKind.Holds member.2 found found) :
    Alike QuietKind.Holds (.object (Template.quietNames ++ more))
      (.object (baseContext feature root ++ added)) (.object (baseContext feature root ++ added)) := by
  have hget : IsWord ("Get" ++ feature.pascalName) := IsWord.append (by decide) hpascal
  have hclass : ∀ suffix, IsWord suffix → Text.IsLine (feature.pascalName ++ suffix) :=
    fun _ hsuffix => (hpascal.append hsuffix).isLine
  have hqualified : ∀ layer, Text.IsLine (root.forLayer layer).qualified := by
    intro layer
    have hlogical : IsWord (root.forLayer layer).logical := hroot
    exact (TypeName.qualified_isWord hlogical).isLine
  refine .of_forall ?_
  rw [List.forall_mem_append]
  constructor
  · -- Every name of the context is a word, and a word is a line.
    simp only [Template.quietNames, List.forall_mem_cons, List.not_mem_nil, false_imp_iff,
      implies_true, and_true]
    refine ⟨⟨_, _, rfl, rfl, .of_forall ?_⟩, ⟨_, _, rfl, rfl, .leaf (endpointConstant_isWord feature).isLine⟩,
      ⟨_, _, rfl, rfl, .of_forall ?_⟩⟩
    · simp only [List.forall_mem_cons, List.not_mem_nil, false_imp_iff, implies_true, and_true]
      exact ⟨⟨_, _, rfl, rfl, .leaf hname.isLine⟩, ⟨_, _, rfl, rfl, .leaf ⟨_, rfl⟩⟩⟩
    · simp only [List.forall_mem_cons, List.not_mem_nil, false_imp_iff, implies_true, and_true]
      exact ⟨⟨_, _, rfl, rfl, .leaf (hqualified .entity)⟩, ⟨_, _, rfl, rfl, .leaf (hqualified .model)⟩,
        ⟨_, _, rfl, rfl, .leaf (hclass _ (by decide))⟩, ⟨_, _, rfl, rfl, .leaf (hclass _ (by decide))⟩,
        ⟨_, _, rfl, rfl, .leaf (hget.append (by decide)).isLine⟩,
        ⟨_, _, rfl, rfl, .leaf (hget.append (by decide)).isLine⟩,
        ⟨_, _, rfl, rfl, .leaf (IsWord.append (by decide) hpascal).isLine⟩⟩
  · intro member hmember
    obtain ⟨found, hfound, halike⟩ := h member hmember
    exact ⟨found, found, hfound, hfound, halike⟩

/-- The context of a feature file that reads nothing else. -/
theorem Plan.alike_quietContext {root : TypeName} (hroot : IsWord root.logical) :
    Alike QuietKind.Holds (.object Template.quietNames) (.object (baseContext feature root))
      (.object (baseContext feature root)) := by
  have hnone : ∀ member ∈ ([] : List (String × Shape QuietKind)), ∃ found,
      (baseContext feature root ++ []).lookup member.1 = some found ∧
        Alike QuietKind.Holds member.2 found found := by simp
  have hall := alike_quietNames hname hpascal hroot hnone
  rwa [List.append_nil, List.append_nil] at hall

section

variable {schema : Schema} (hnamed : ∀ record ∈ schema.records, IsWord record.name.logical)
  {root : TypeName} (hroot : IsWord root.logical)

include hnamed hroot

/-- The domain layer: the parameters copy the path, the entities copy nothing. -/
theorem domainArtifacts_fit :
    Plan.AllFit (Plan.domainArtifacts feature schema (Plan.baseContext feature root))
      (Plan.domainHeights (Plan.fieldCounts schema)) (Plan.domainCopies feature) := by
  have hclasses := recordClasses_isNamed hnamed .entity false
  have hentities := breaks_entityLines hclasses
  rw [Plan.fieldCounts_eq] at hentities
  have hparams : Text.breaks (Text.ofLines (Plan.paramsLines feature)) =
      14 + Text.breaksOf [feature.path] := by
    rw [Text.breaks_ofLines, breaksOf_paramsLines hpascal]
    rfl
  have hquiet := Plan.alike_quietContext hname hpascal hroot
  obtain ⟨hrepository, huseCase, -, -⟩ := Template.feature_isQuiet
  refine .cons ?_ (.cons ?_ (.cons ?_ (.cons ?_ .nil)))
  · refine exists_fits_of_renders ?_ (?_ : Renders Template.entity _ _) hentities ?_
    · simp [Template.library]
    · exact renders_entity rfl
    · exact fun _ => encloses_nil _
  · exact exists_fits_of_quiet (by simp [Template.library]) hrepository hquiet rfl
  · exact exists_fits_of_quiet (by simp [Template.library]) huseCase hquiet rfl
  · refine exists_fits_of_renders ?_ (?_ : Renders Template.params _ _) hparams ?_
    · simp [Template.library]
    · exact renders_params root
    · exact fun h => encloses_params hpascal (h _ (by simp))

/-- The data layer: the models copy the keys. -/
theorem dataArtifacts_fit (wrapList : Bool) :
    Plan.AllFit (Plan.dataArtifacts feature schema (Plan.baseContext feature root) wrapList)
      (Plan.dataHeights feature.method wrapList (Plan.fieldCounts schema))
      (Plan.dataCopies schema) := by
  have hclasses := recordClasses_isNamed hnamed .model true
  have hmodels := breaks_modelLines hclasses hname.isLine
  rw [Plan.fieldCounts_eq] at hmodels
  have hprintable : (∀ text ∈ Plan.copiedKeys schema, Text.IsLine text) →
      ∀ record ∈ recordClasses schema .model true, record.IsPrintable := by
    intro hkeys record hrecord
    exact ⟨hclasses record hrecord, fun text htext =>
      hkeys text (List.mem_flatMap.2 ⟨record, hrecord, htext⟩)⟩
  have hquiet := Plan.alike_quietContext hname hpascal hroot
  have hsource : Alike QuietKind.Holds
      (.object (Template.quietNames ++ [("wrap_list", Shape.leaf QuietKind.line)]))
      (.object (Plan.baseContext feature root ++ [("wrap_list", Json.bool wrapList)]))
      (.object (Plan.baseContext feature root ++ [("wrap_list", Json.bool wrapList)])) := by
    refine Plan.alike_quietNames hname hpascal hroot ?_
    have hbool : Text.IsLine (Json.bool wrapList).display := by cases wrapList <;> decide
    exact List.forall_mem_singleton.2 ⟨_, rfl, .leaf hbool⟩
  obtain ⟨-, -, hdataSource, himplementation⟩ := Template.feature_isQuiet
  refine .cons ?_ (.cons ?_ (.cons ?_ .nil))
  · refine exists_fits_of_renders ?_ (?_ : Renders Template.model _ _) hmodels ?_
    · simp [Template.library]
    · exact renders_model rfl rfl
    · exact fun hkeys => encloses_models (hprintable hkeys) hname.isLine
  · exact exists_fits_of_quiet (by simp [Template.library]) hdataSource hsource
      (height_dataSource feature root wrapList)
  · exact exists_fits_of_quiet (by simp [Template.library]) himplementation hquiet rfl

end

/-! ## Plans -/

/-- The files of a plan fit, whatever the endpoint and the payload are. -/
theorem planned_fit {schema : Schema} (hnamed : ∀ record ∈ schema.records, IsWord record.name.logical)
    {wrapList : Bool} {timeout : Int} {planned : List Artifact}
    (hplanned : planArtifacts schema feature wrapList timeout = .ok planned) :
    Plan.AllFit planned (Plan.heights feature.method wrapList (Plan.fieldCounts schema))
      (Plan.copies feature schema) := by
  cases schema with
  | record root fields =>
    have hroot : IsWord root.logical := hnamed ⟨root, fields⟩ (by simp [Schema.records])
    cases hplanned
    have hcore := coreArtifacts_fit feature root timeout
    have hdomain := domainArtifacts_fit hname hpascal hnamed hroot
    have hdata := dataArtifacts_fit hname hpascal hnamed hroot wrapList
    exact List.rel_append (List.rel_append hcore hdomain) hdata
  | scalar | list => cases hplanned

theorem exists_files_fit {payload : Payload}
    (hnamed : ∀ record ∈ (payload.schema feature).records, IsWord record.name.logical) (timeout : Int) :
    ∃ files, payload.files feature timeout = .ok files ∧
      List.Forall₂ (fun file entry => file.Fits entry.1 entry.2) files
        ((Plan.heights feature.method payload.rootWasList
          (Plan.fieldCounts (payload.schema feature))).zip
            (Plan.copies feature (payload.schema feature))) := by
  obtain ⟨planned, hplanned⟩ := payload.exists_planned feature timeout
  obtain ⟨files, hfiles, hfit⟩ := exists_renderAll (planned_fit hname hpascal hnamed hplanned)
  exact ⟨files, payload.files_eq_ok hplanned hfiles, hfit⟩

end

/-- The line breaks of files that fit. -/
theorem map_breaks_of_fits {files : List Artifact} {entries : List ((String × Nat) × List String)}
    (h : List.Forall₂ (fun file entry => Artifact.Fits file entry.1 entry.2) files entries) :
    files.map (fun file => Text.breaks file.content) =
      entries.map fun entry => entry.1.2 + Text.breaksOf entry.2 := by
  induction h with
  | nil => rfl
  | cons hfirst _ ih => rw [List.map_cons, List.map_cons, hfirst.breaks, ih]

/-- Files that fit have no more line breaks than lines exactly if none is copied. -/
theorem map_breaks_eq_iff {files : List Artifact} {heights : List (String × Nat)}
    {copies : List (List String)} (hlength : heights.length = copies.length)
    (h : List.Forall₂ (fun file entry => Artifact.Fits file entry.1 entry.2) files
      (heights.zip copies)) :
    files.map (fun file => Text.breaks file.content) = heights.map Prod.snd ↔
      ∀ texts ∈ copies, ∀ text ∈ texts, Text.IsLine text := by
  rw [map_breaks_of_fits h]
  clear h
  induction heights generalizing copies with
  | nil => simp [List.eq_nil_of_length_eq_zero hlength.symm]
  | cons height heights ih =>
    cases copies with
    | nil => cases hlength
    | cons texts copies =>
      rw [List.zip_cons_cons, List.map_cons, List.map_cons, List.cons.injEq,
        ih (Nat.succ.inj hlength), List.forall_mem_cons, ← Text.breaksOf_eq_zero_iff,
        Nat.add_eq_left]

/-- **The line breaks of the generated files.** For every endpoint and every payload the files are
rendered, and each takes as many lines as the method, the form of the sample and the numbers of fields
say. The line breaks of the base address, of the path and of the keys come on top of them, once for
each copy, so no file has another line break exactly if none of these texts holds one. Then each copy
stays in its literal or in its comment. -/
theorem files_breaks_iff {endpoint : String} {method : HttpMethod} {base : Option String}
    {feature : Feature} (hfeature : Feature.ofEndpoint endpoint method base = .ok feature)
    (payload : Payload) (timeout : Int) :
    let schema := payload.schema feature
    let heights := Plan.heights method payload.rootWasList (Plan.fieldCounts schema)
    ∃ files, payload.files feature timeout = .ok files ∧
      List.Forall₂ (fun file entry => file.Fits entry.1 entry.2) files
        (heights.zip (Plan.copies feature schema)) ∧
      (files.map (fun file => Text.breaks file.content) = heights.map Prod.snd ↔
        Text.IsLine (Plan.registeredBase feature) ∧ Text.IsLine feature.path ∧
          ∀ record ∈ schema.records, ∀ key ∈ record.keys, Text.IsLine key) := by
  intro schema heights
  have hnames := Feature.isNamed_of_ofEndpoint hfeature
  have hmethod : feature.method = method := by
    obtain ⟨path, query, known, rfl⟩ := Feature.exists_ofParts hfeature
    rfl
  have hnamed : ∀ record ∈ schema.records, IsWord record.name.logical :=
    fun _ hrecord => (Schema.isClassName_of_mem_records hrecord).isWord
  obtain ⟨files, hfiles, hfit⟩ :=
    exists_files_fit hnames.isWord hnames.isClassName.isWord hnamed timeout
  rw [hmethod] at hfit
  refine ⟨files, hfiles, hfit, ?_⟩
  rw [map_breaks_eq_iff rfl hfit]
  have hkeys : (∀ text ∈ Plan.copiedKeys schema, Text.IsLine text) ↔
      ∀ record ∈ schema.records, ∀ key ∈ record.keys, Text.IsLine key := by
    constructor
    · exact fun h record hrecord key hkey => h key (Plan.mem_copiedKeys.2 ⟨record, hrecord, hkey⟩)
    · intro h text htext
      obtain ⟨record, hrecord, hkey⟩ := Plan.mem_copiedKeys.1 htext
      exact h record hrecord text hkey
  rw [← hkeys]
  simp only [Plan.copies, Plan.coreCopies, Plan.domainCopies, Plan.dataCopies, List.cons_append,
    List.nil_append, List.forall_mem_cons, List.not_mem_nil, false_imp_iff, implies_true, and_true,
    true_and]
  -- the path is copied into two files
  constructor
  · rintro ⟨⟨hbase, hpath⟩, -, hall⟩
    exact ⟨hbase, hpath, hall⟩
  · rintro ⟨hbase, hpath, hall⟩
    exact ⟨⟨hbase, hpath⟩, hpath, hall⟩

/-- A sample with an empty record, and with a key that needs escapes. -/
theorem escapedKey_files_breaks :
    let feature := Feature.ofParts "/order-items".toList "page=1".toList .delete (some "https://h")
    let payload : Payload := ⟨[("it's $x", .null), ("data", .array [.object []])], true⟩
    Feature.ofEndpoint "https://h/order-items?page=1" .delete none = .ok feature ∧
      Plan.copies feature (payload.schema feature) =
        [["https://h", "/order-items"], [], [], [], [], [], [], [], [], [], [], ["/order-items"],
          ["it's $x", "it's $x", "data", "data"], [], []] ∧
      ∃ files, payload.files feature 30 = .ok files ∧
        files.map (fun file => Text.breaks file.content) =
          [11, 150, 23, 17, 16, 42, 19, 51, 22, 10, 17, 14, 24, 41, 29] := by
  intro feature payload
  have hfeature : Feature.ofEndpoint "https://h/order-items?page=1" .delete none = .ok feature := by
    decide +kernel
  obtain ⟨files, hfiles, -, hbreaks⟩ := files_breaks_iff hfeature payload 30
  have hbase : Text.IsLine (Plan.registeredBase feature) := by decide +kernel
  have hpath : Text.IsLine feature.path := by decide +kernel
  have hkeys : ∀ record ∈ (payload.schema feature).records, ∀ key ∈ record.keys, Text.IsLine key := by
    decide +kernel
  have hheights : (Plan.heights .delete true (Plan.fieldCounts (payload.schema feature))).map Prod.snd =
      [11, 150, 23, 17, 16, 42, 19, 51, 22, 10, 17, 14, 24, 41, 29] := by decide +kernel
  have hcopies : Plan.copies feature (payload.schema feature) =
      [["https://h", "/order-items"], [], [], [], [], [], [], [], [], [], [], ["/order-items"],
        ["it's $x", "it's $x", "data", "data"], [], []] := by decide +kernel
  exact ⟨hfeature, hcopies, files, hfiles, (hbreaks.2 ⟨hbase, hpath, hkeys⟩).trans hheights⟩

/-- **A line break in a key** is copied into the literals of the model: two samples of one form and of
one number of fields make files with different numbers of line breaks. -/
theorem brokenKey_adds_breaks :
    let feature := Feature.ofParts "/users".toList [] .get (some "http://h")
    let payload : Payload := ⟨[("a\nb", .int 1)], false⟩
    let other : Payload := ⟨[("ab", .int 1)], false⟩
    Feature.ofEndpoint "http://h/users" .get none = .ok feature ∧
      payload.rootWasList = other.rootWasList ∧
      Plan.fieldCounts (payload.schema feature) = Plan.fieldCounts (other.schema feature) ∧
      ∃ files others, payload.files feature 30 = .ok files ∧ other.files feature 30 = .ok others ∧
        files.map (fun file => Text.breaks file.content) ≠
          others.map (fun file => Text.breaks file.content) := by
  intro feature payload other
  have hfeature : Feature.ofEndpoint "http://h/users" .get none = .ok feature := by decide +kernel
  have hname : IsWord feature.name := by decide +kernel
  have hpascal : IsWord feature.pascalName := by decide +kernel
  have hnamed : ∀ record ∈ (payload.schema feature).records, IsWord record.name.logical := by
    decide +kernel
  have hothers : ∀ record ∈ (other.schema feature).records, IsWord record.name.logical := by
    decide +kernel
  obtain ⟨files, hfiles, hfit⟩ := exists_files_fit hname hpascal hnamed 30
  obtain ⟨others, hrendered, halso⟩ := exists_files_fit hname hpascal hothers 30
  refine ⟨hfeature, rfl, by decide +kernel, files, others, hfiles, hrendered, ?_⟩
  rw [map_breaks_of_fits hfit, map_breaks_of_fits halso]
  decide +kernel

end DartLayers
