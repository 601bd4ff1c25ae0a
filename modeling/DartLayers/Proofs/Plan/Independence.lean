import DartLayers.Proofs.Endpoint.Query
import DartLayers.Proofs.Plan.Readings
import DartLayers.Sample

/-!
# DartLayers — what the generated files do not depend on

The payload shapes the entities and the models, and whether it was an array shapes the data source;
no other file depends on it, and six files of the core depend on nothing at all. What stands behind
the path of an endpoint shapes none of the files.

* **`Payload.files`** — the files for a payload.
* **`files_independent`** — the files that do not depend on the payload, or on the feature.
* **`files_append`** — a query or a fragment reaches no file.
-/

namespace DartLayers

/-! ## Files -/

/-- The files for a payload, planned and rendered. -/
def Payload.files (payload : Payload) (feature : Feature) (timeout : Int) :
    Except Interruption (List Artifact) :=
  match planArtifacts (payload.schema feature) feature payload.rootWasList timeout with
  | .ok planned => (Artifact.renderAll planned).mapError .template
  | .error fault => .error (.plan fault)

/-- The content of the file at a path. -/
def contentAt (path : String) (files : List Artifact) : Option String :=
  (files.find? (·.path == path)).map Artifact.content

section

variable {payload : Payload} {feature : Feature} {timeout : Int} {planned files : List Artifact}

theorem Payload.exists_planned (payload : Payload) (feature : Feature) (timeout : Int) :
    ∃ planned, planArtifacts (payload.schema feature) feature payload.rootWasList timeout =
      .ok planned :=
  -- the root of a payload is an object, so its schema is a record
  ⟨_, rfl⟩

theorem Payload.files_eq_ok
    (hplanned : planArtifacts (payload.schema feature) feature payload.rootWasList timeout =
      .ok planned) (hfiles : Artifact.renderAll planned = .ok files) :
    payload.files feature timeout = .ok files := by
  rw [Payload.files, hplanned]
  simp only [hfiles, Except.mapError]

/-- The first file at a path is the first planned one at the path. -/
theorem find?_renderAll (h : Artifact.renderAll planned = .ok files) {path : String}
    {artifact : Artifact} (hfind : planned.find? (·.path == path) = some artifact) :
    ∃ file, artifact.render = .ok file ∧ files.find? (·.path == path) = some file := by
  induction planned generalizing files with
  | nil => cases hfind
  | cons first rest ih =>
    rw [Artifact.renderAll] at h
    obtain ⟨file, hfile, h⟩ := exists_ok_of_bind h
    obtain ⟨behind, hbehind, h⟩ := exists_ok_of_bind h
    cases h
    have hpath := render_path hfile
    rw [List.find?_cons] at hfind
    rw [List.find?_cons, hpath]
    split at hfind
    · cases hfind
      exact ⟨file, hfile, rfl⟩
    · exact ih hbehind hfind

end

/-! ## The payload -/

/-- Whether a file of a layer may differ between two payloads. -/
def Payload.Shapes (payload other : Payload) : Layer → Prop
  | .domainEntity | .dataModel => True
  | .dataDatasource => payload.rootWasList ≠ other.rootWasList
  | _ => False

/-- The files, below `lib/`, that do not depend on anything. -/
def fixedFiles : List String := [
  "core/network/interceptor/authorization_interceptor.dart",
  "core/network/network_info.dart",
  "core/network/network_service.dart",
  "core/error/exceptions.dart",
  "core/error/failures.dart",
  "core/utils/data_parser.dart"]

/-- Two plans of a feature differ in the files that the payload shapes. -/
theorem planned_forall₂ {payload other : Payload} {feature : Feature} {timeout : Int}
    {planned others : List Artifact}
    (hplanned : planArtifacts (payload.schema feature) feature payload.rootWasList timeout =
      .ok planned)
    (hothers : planArtifacts (other.schema feature) feature other.rootWasList timeout =
      .ok others) :
    List.Forall₂ (fun artifact also => also.path = artifact.path ∧ also.layer = artifact.layer ∧
      (payload.Shapes other artifact.layer ∨ also = artifact)) planned others := by
  cases hplanned
  cases hothers
  refine List.rel_append (List.rel_append ?_ ?_) ?_
  · exact List.forall₂_same.2 fun _ _ => ⟨rfl, rfl, .inr rfl⟩
  · exact .cons ⟨rfl, rfl, .inl trivial⟩ (.cons ⟨rfl, rfl, .inr rfl⟩
      (.cons ⟨rfl, rfl, .inr rfl⟩ (.cons ⟨rfl, rfl, .inr rfl⟩ .nil)))
  · refine .cons ⟨rfl, rfl, .inl trivial⟩ (.cons ⟨rfl, rfl, ?_⟩ (.cons ⟨rfl, rfl, .inr rfl⟩ .nil))
    by_cases hroot : payload.rootWasList = other.rootWasList
    · rw [hroot]
      exact .inr rfl
    · exact .inl hroot

theorem fixedFiles_spec : ∀ path ∈ fixedFiles,
    path ++ ".j2" ∈ Plan.templates ∧ Template.reads (path ++ ".j2") = [] := by
  simp only [fixedFiles, List.forall_mem_cons, List.not_mem_nil, false_imp_iff, implies_true,
    and_true]
  refine ⟨⟨?_, rfl⟩, ⟨?_, rfl⟩, ⟨?_, rfl⟩, ⟨?_, rfl⟩, ⟨?_, rfl⟩, ?_, rfl⟩ <;>
  decide

/-- A template that reads nothing has one content. -/
theorem exists_content_of_fixed {path : String} (h : path ∈ fixedFiles) :
    ∃ content, ∀ context, renderTemplate (path ++ ".j2") context = .ok content := by
  obtain ⟨htemplate, hreads⟩ := fixedFiles_spec path h
  obtain ⟨template, hlibrary⟩ := Template.exists_mem_library (Plan.templates_subset htemplate)
  have hpasses := Template.library_passes _ hlibrary
  have hfind := Template.find?_of_mem hlibrary
  rw [hreads] at hpasses
  have hrender : ∀ context, ∃ text, renderTemplate (path ++ ".j2") [] = .ok text ∧
      renderTemplate (path ++ ".j2") context = .ok text := fun context =>
    renderTemplate_alike hfind hpasses (.of_forall nofun)
  obtain ⟨content, hcontent, -⟩ := hrender []
  refine ⟨content, fun context => ?_⟩
  obtain ⟨text, htext, hsame⟩ := hrender context
  rw [hcontent, Except.ok.injEq] at htext
  rw [hsame, htext]

/-- A fixed file is planned. -/
theorem find?_planned {path : String} (h : path ∈ fixedFiles) {payload : Payload} {feature : Feature}
    {timeout : Int} {planned : List Artifact}
    (hplanned : planArtifacts (payload.schema feature) feature payload.rootWasList timeout =
      .ok planned) :
    ∃ artifact, planned.find? (·.path == "lib/" ++ path) = some artifact ∧
      artifact.template = path ++ ".j2" := by
  cases hplanned
  have hcore : ∃ layer, Plan.coreFiles.find? (fun file => "lib/" ++ file.1 == "lib/" ++ path) =
      some (path, layer) := by
    simp only [fixedFiles, List.mem_cons, List.not_mem_nil, or_false] at h
    rcases h with rfl | rfl | rfl | rfl | rfl | rfl <;> exact ⟨_, rfl⟩
  obtain ⟨layer, hlayer⟩ := hcore
  refine ⟨{ path := "lib/" ++ path, layer, template := path ++ ".j2"
            context := Plan.coreContext feature (recordName feature.name [] .entity) timeout },
    ?_, rfl⟩
  rw [List.append_assoc, List.find?_append, Plan.coreArtifacts, List.find?_map]
  simp only [Function.comp_def, hlayer, Option.map_some]
  rfl

/-- **Only some files depend on the payload.** Two payloads of a feature make plans with the same
paths and layers, and the contents are the same but for the entities, the models and, if only one of
the payloads was an array, the data source. Six files of the core are the same for all features. -/
theorem files_independent :
    (∀ (feature : Feature) (timeout : Int) (payload other : Payload),
      ∃ files others, payload.files feature timeout = .ok files ∧
        other.files feature timeout = .ok others ∧
        List.Forall₂ (fun file also => also.path = file.path ∧ also.layer = file.layer ∧
          (payload.Shapes other file.layer ∨ also.content = file.content)) files others) ∧
      ∀ path ∈ fixedFiles, ∃ content, ∀ (feature : Feature) (timeout : Int) (payload : Payload),
        ∃ files, payload.files feature timeout = .ok files ∧
          contentAt ("lib/" ++ path) files = some content := by
  constructor
  · intro feature timeout payload other
    obtain ⟨planned, hplanned⟩ := payload.exists_planned feature timeout
    obtain ⟨others, hothers⟩ := other.exists_planned feature timeout
    have hpairs := planned_forall₂ hplanned hothers
    -- Artifacts of equal contexts render the same; the others belong to a layer that the payload
    -- shapes.
    have hrenders : List.Forall₂ (fun artifact also => ∃ file same, artifact.render = .ok file ∧
        also.render = .ok same ∧ same.path = file.path ∧ same.layer = file.layer ∧
          (payload.Shapes other file.layer ∨ same.content = file.content)) planned others := by
      rw [List.forall₂_iff_zip] at hpairs ⊢
      refine ⟨hpairs.1, fun {artifact also} hpair => ?_⟩
      obtain ⟨hartifact, halso⟩ := List.of_mem_zip hpair
      obtain ⟨hpath, hlayer, hsame⟩ := hpairs.2 hpair
      obtain ⟨content, hcontent⟩ := planned_renders hplanned artifact hartifact
      obtain ⟨behind, hbehind⟩ := planned_renders hothers also halso
      refine ⟨_, _, hcontent, hbehind, hpath, hlayer, hsame.imp_right ?_⟩
      rintro rfl
      rw [hcontent, Except.ok.injEq] at hbehind
      exact congrArg Artifact.content hbehind.symm
    obtain ⟨files, behind, hfiles, hbehind, hrelated⟩ := exists_renderAll_both hrenders
    exact ⟨files, behind, payload.files_eq_ok hplanned hfiles, other.files_eq_ok hothers hbehind,
      hrelated⟩
  · intro path hpath
    obtain ⟨content, hcontent⟩ := exists_content_of_fixed hpath
    refine ⟨content, fun feature timeout payload => ?_⟩
    obtain ⟨planned, hplanned⟩ := payload.exists_planned feature timeout
    obtain ⟨artifact, hfind, htemplate⟩ := find?_planned hpath hplanned
    obtain ⟨files, hfiles⟩ := exists_rendered hplanned
    obtain ⟨file, hfile, hfound⟩ := find?_renderAll hfiles hfind
    refine ⟨files, payload.files_eq_ok hplanned hfiles, ?_⟩
    rw [Artifact.render, htemplate, hcontent] at hfile
    cases hfile
    rw [contentAt, hfound]
    rfl

/-! ## The query -/

/-- **No query and no fragment reaches a file.** Behind an endpoint they change neither whether it is
accepted nor its feature, but for the query that is kept apart; and the files are the same. -/
theorem files_append {endpoint suffix : String} (htrim : Text.trim endpoint = endpoint)
    (hendpoint : IsUnmarked endpoint.toList) (hsuffix : StartsQuery suffix.toList)
    (method : HttpMethod) (base : Option String) :
    (∀ fault, Feature.ofEndpoint (endpoint ++ suffix) method base = .error fault ↔
      Feature.ofEndpoint endpoint method base = .error fault) ∧
    ∀ feature, Feature.ofEndpoint endpoint method base = .ok feature →
      ∃ marked, Feature.ofEndpoint (endpoint ++ suffix) method base = .ok marked ∧
        marked.name = feature.name ∧ marked.pascalName = feature.pascalName ∧
        marked.path = feature.path ∧ marked.baseUrl = feature.baseUrl ∧
        marked.endpointConstant = feature.endpointConstant ∧
        ∀ (payload : Payload) (timeout : Int), ∃ files others,
          payload.files feature timeout = .ok files ∧
          payload.files marked timeout = .ok others ∧
          List.Forall₂ (fun file also => also.path = file.path ∧ also.layer = file.layer ∧
            also.content = file.content) files others := by
  obtain ⟨query, hquery⟩ := ofEndpoint_append htrim hendpoint hsuffix method base
  rw [hquery]
  constructor
  · intro fault
    cases Feature.ofEndpoint endpoint method base <;> simp [Except.map]
  · intro feature hfeature
    refine ⟨{ feature with query }, by rw [hfeature]; rfl, rfl, rfl, rfl, rfl, rfl,
      fun payload timeout => ?_⟩
    obtain ⟨planned, hplanned⟩ := payload.exists_planned feature timeout
    -- The query is in no context, so the artifacts agree one by one.
    obtain ⟨others, hothers, hagree⟩ := planned_agrees hplanned query
    have hrenders : List.Forall₂ (fun artifact also => ∃ file same, artifact.render = .ok file ∧
        also.render = .ok same ∧ same.path = file.path ∧ same.layer = file.layer ∧
          same.content = file.content) planned others :=
      hagree.imp fun _ _ ⟨hpath, hlayer, _, hcontent, halso⟩ =>
        ⟨_, _, hcontent, halso, hpath, hlayer, rfl⟩
    obtain ⟨files, behind, hfiles, hbehind, hsame⟩ := exists_renderAll_both hrenders
    exact ⟨files, behind, payload.files_eq_ok hplanned hfiles, payload.files_eq_ok hothers hbehind,
      hsame⟩

/-- An absolute address with both marks behind it, and with another address behind the marks. -/
theorem marked_address_files :
    let payload : Payload := ⟨[("data", .array [.object [("id", .int 1)]])], true⟩
    let endpoint := "HTTPS://h:8/order-items"
    let suffix := "?page=1/#https://x/y?z "
    let feature := Feature.ofParts "/order-items".toList [] .get (some "https://h:8")
    Text.trim endpoint = endpoint ∧ IsUnmarked endpoint.toList ∧ StartsQuery suffix.toList ∧
      Feature.ofEndpoint endpoint .get none = .ok feature ∧
      Feature.ofEndpoint (endpoint ++ suffix) .get none = .ok { feature with query := "page=1/" } ∧
      ∃ files others, payload.files feature 30 = .ok files ∧
        payload.files { feature with query := "page=1/" } 30 = .ok others ∧
        List.Forall₂ (fun file also => also.path = file.path ∧ also.layer = file.layer ∧
          also.content = file.content) files others := by
  intro payload endpoint suffix feature
  have htrim : Text.trim endpoint = endpoint := by decide +kernel
  have hendpoint : IsUnmarked endpoint.toList := by decide +kernel
  have hsuffix : StartsQuery suffix.toList := by decide +kernel
  have hfeature : Feature.ofEndpoint endpoint .get none = .ok feature := by decide +kernel
  have hmarked : Feature.ofEndpoint (endpoint ++ suffix) .get none =
      .ok { feature with query := "page=1/" } := by decide +kernel
  obtain ⟨marked, hfound, -, -, -, -, -, hfiles⟩ :=
    (files_append htrim hendpoint hsuffix .get none).2 feature hfeature
  rw [hmarked, Except.ok.injEq] at hfound
  subst hfound
  exact ⟨htrim, hendpoint, hsuffix, hfeature, hmarked, hfiles payload 30⟩

end DartLayers
