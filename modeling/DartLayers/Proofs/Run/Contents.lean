import DartLayers.Proofs.Run.Outcomes
import DartLayers.Proofs.Template.Copies
import DartLayers.Proofs.Template.Registry
import Mathlib.Data.List.Nodup

/-!
# DartLayers — the registry and the data source of a run

Among the files of a run are the registry and the data source of the feature. Both are rendered for
the same feature, so the constant that the one refers to is declared in the other.

* **`rendered_of_path`** — a rendered file is that of its path.
* **`ready_registry`**, **`ready_dataSource`** — what the two files declare and refer to.
-/

namespace DartLayers

/-! ## Paths -/

/-- The parts of the path of a feature's data source. -/
def dataSourceParts (name : String) : List String :=
  ["lib", "feature", name, "data", "datasources", name ++ "_remote_data_source.dart"]

/-- The path of a feature's data source. -/
def dataSourcePath (name : String) : String :=
  "/".intercalate (dataSourceParts name)

theorem registryPath_mem (name : String) : registryPath ∈ plannedPaths name :=
  List.mem_map_of_mem (a := ["lib", "core", "network", "api_constants.dart"])
    (List.mem_append_left _ List.mem_cons_self)

theorem dataSourceParts_mem (name : String) : dataSourceParts name ∈ plannedParts name :=
  List.mem_append_right _ (by simp [featureParts, dataSourceParts])

theorem dataSourcePath_mem (name : String) : dataSourcePath name ∈ plannedPaths name :=
  List.mem_map_of_mem (dataSourceParts_mem name)

/-- A data source is planned for its own feature only. -/
theorem eq_of_dataSourceParts_mem {name other : String}
    (h : dataSourceParts name ∈ plannedParts other) : name = other := by
  simpa [plannedParts, coreParts, featureParts, dataSourceParts] using h

/-- Different paths of a plan are different texts. -/
theorem plannedPaths_nodup {name : String} (hname : IsWord name) : (plannedPaths name).Nodup :=
  (planned_apart hname).2.imp fun hne hsame => hne (congrArg pathParts hsame)

/-! ## Rendered files -/

/-- A rendered file comes from a planned one. -/
theorem exists_planned {planned rendered : List Artifact}
    (h : Artifact.renderAll planned = .ok rendered) {artifact : Artifact}
    (hartifact : artifact ∈ rendered) : ∃ origin ∈ planned, origin.render = .ok artifact := by
  induction planned generalizing rendered with
  | nil =>
    rw [Artifact.renderAll] at h
    cases h
    cases hartifact
  | cons first rest ih =>
    rw [Artifact.renderAll] at h
    obtain ⟨done, hdone, h⟩ := exists_ok_of_bind h
    obtain ⟨others, hothers, h⟩ := exists_ok_of_bind h
    cases h
    rcases List.mem_cons.1 hartifact with rfl | hother
    · exact ⟨first, List.mem_cons_self, hdone⟩
    · obtain ⟨origin, horigin, hrendered⟩ := ih hothers hother
      exact ⟨origin, List.mem_cons_of_mem _ horigin, hrendered⟩

/-- **A rendered file is that of its path**, as the paths are different. -/
theorem rendered_of_path {planned rendered : List Artifact}
    (hnodup : (planned.map Artifact.path).Nodup) (h : Artifact.renderAll planned = .ok rendered)
    {origin artifact : Artifact} (horigin : origin ∈ planned) (hartifact : artifact ∈ rendered)
    (hpath : artifact.path = origin.path) :
    renderTemplate origin.template origin.context = .ok artifact.content := by
  obtain ⟨other, hother, hrender⟩ := exists_planned h hartifact
  have hsame : other = origin :=
    List.inj_on_of_nodup_map hnodup hother horigin ((render_path hrender).symm.trans hpath)
  subst hsame
  rw [Artifact.render] at hrender
  cases hcontent : renderTemplate other.template other.context with
  | error fault =>
    rw [hcontent] at hrender
    cases hrender
  | ok content =>
    rw [hcontent] at hrender
    cases hrender
    rfl

/-! ## The two files -/

variable {settings : Settings} {source : SampleSource} {endpoint method : String}
  {feature : Feature} {artifacts : List Artifact} {session asked : Session}

/-- What the files of a run are rendered from. -/
theorem ready_rendered
    (hready : (prepare settings source endpoint method).run session =
      (.ok (.ready feature artifacts), asked)) :
    ∃ (fields : List (String × Schema)) (wrapList : Bool) (planned : List Artifact),
      planArtifacts (.record (recordName feature.name [] .entity) fields) feature wrapList
          settings.timeout = .ok planned ∧
        ∀ origin ∈ planned, ∀ content, (origin.path, content) ∈ Run.files artifacts →
          renderTemplate origin.template origin.context = .ok content := by
  obtain ⟨-, -, payload, planned, -, -, hplanned, hrendered⟩ := prepare_eq_ready hready
  refine ⟨_, payload.rootWasList, planned, hplanned, fun origin horigin content hmem => ?_⟩
  have hnodup : (planned.map Artifact.path).Nodup := by
    rw [planArtifacts_paths hplanned]
    exact plannedPaths_nodup (ready_paths hready).1
  obtain ⟨artifact, hartifact, hfile⟩ := List.mem_map.1 hmem
  obtain ⟨hpath, rfl⟩ := Prod.mk.inj hfile
  exact rendered_of_path hnodup hrendered horigin hartifact hpath

/-- Letters and digits are characters of names. -/
theorem isNameChar_of_isAlphanum {text : List Char} (h : ∀ c ∈ text, c.isAlphanum = true) :
    ∀ c ∈ text, Dart.isNameChar c = true := by
  intro c hc
  rw [Dart.isNameChar, h c hc, Bool.true_or]

/-- There is no dot in a name. -/
theorem dot_notMem {text : List Char} (h : ∀ c ∈ text, Dart.isNameChar c = true) : '.' ∉ text := by
  intro hmem
  have hdot := h '.' hmem
  revert hdot
  decide

/-- The registry of a run has the lines of a registry. -/
theorem ready_registryLines
    (hready : (prepare settings source endpoint method).run session =
      (.ok (.ready feature artifacts), asked)) {content : String}
    (hmem : (registryPath, content) ∈ Run.files artifacts) :
    content = Text.ofLines (Plan.registryLines feature) := by
  obtain ⟨fields, wrapList, planned, hplanned, hrendered⟩ := ready_rendered hready
  rw [planArtifacts] at hplanned
  cases hplanned
  have htext : renderTemplate "core/network/api_constants.dart.j2"
      (Plan.coreContext feature (recordName feature.name [] .entity) settings.timeout) =
        .ok content :=
    hrendered _ (List.mem_append_left _ (List.mem_append_left _ List.mem_cons_self)) content hmem
  have hfind : Template.find? "core/network/api_constants.dart.j2" =
      some Template.apiConstants := by rfl
  have hlines := renders_registry (recordName feature.name [] .entity)
    (endpointConstant_isAlphanum feature.path).1 settings.timeout
  rw [renderTemplate, hfind] at htext
  exact Except.ok.inj (htext.symm.trans hlines)

theorem mem_escapeChars {c : Char} {text : List Char} (h : c ∈ text) : c ∈ Dart.escapeChars text := by
  induction text with
  | nil => cases h
  | cons first rest ih =>
    rw [Dart.escapeChars]
    rcases List.mem_cons.1 h with rfl | hrest
    · split <;> simp
    · split <;> simp [ih hrest]

/-- The characters of the endpoint's path are in the registry. -/
theorem path_subset_registry
    (hready : (prepare settings source endpoint method).run session =
      (.ok (.ready feature artifacts), asked)) {content : String}
    (hmem : (registryPath, content) ∈ Run.files artifacts) :
    feature.path.toList ⊆ content.toList := by
  intro c hc
  have hescaped : c ∈ (Dart.escape feature.path).toList := by
    rw [Dart.escape, String.toList_ofList]
    exact mem_escapeChars hc
  have hline : "  static const " ++ feature.endpointConstant ++ " = \"" ++
      Dart.escape feature.path ++ "\";" ∈ Plan.registryLines feature := by
    simp [Plan.registryLines]
  rw [ready_registryLines hready hmem]
  refine Text.mem_ofLines hline ?_
  rw [String.toList_append, String.toList_append]
  exact List.mem_append_left _ (List.mem_append_right _ hescaped)

/-- **The registry of a run** declares the base address and the constant of the endpoint. -/
theorem ready_registry
    (hready : (prepare settings source endpoint method).run session =
      (.ok (.ready feature artifacts), asked)) {content : String}
    (hmem : (registryPath, content) ∈ Run.files artifacts) :
    Dart.declarations content = ["apiBaseUrl", feature.endpointConstant] := by
  obtain ⟨fields, wrapList, planned, hplanned, hrendered⟩ := ready_rendered hready
  rw [planArtifacts] at hplanned
  cases hplanned
  have htext := hrendered _ (List.mem_append_left _ (List.mem_append_left _ List.mem_cons_self))
    content hmem
  obtain ⟨hconstant, halnum⟩ := endpointConstant_isAlphanum feature.path
  exact declarations_registry hconstant (isNameChar_of_isAlphanum halnum) htext

/-- **The data source of a run** refers to the constant of the endpoint. -/
theorem ready_dataSource
    (hready : (prepare settings source endpoint method).run session =
      (.ok (.ready feature artifacts), asked)) {content : String}
    (hmem : (dataSourcePath feature.name, content) ∈ Run.files artifacts) :
    Dart.references content = [feature.endpointConstant] := by
  obtain ⟨hword, -⟩ := ready_paths hready
  obtain ⟨parsed, base, -, -, -, hfeature, -, -⟩ := prepare_eq_ready hready
  obtain ⟨fields, wrapList, planned, hplanned, hrendered⟩ := ready_rendered hready
  have hnames := Feature.isNamed_of_ofEndpoint hfeature
  have hpascal : '.' ∉ feature.pascalName.toList :=
    dot_notMem (isNameChar_of_isAlphanum hnames.isClassName.isAlphanum)
  have hroot : '.' ∉ (recordName feature.name [] .entity).logical.toList := by
    rw [hnames.rootName_eq, String.toList_append, List.mem_append, not_or]
    exact ⟨hpascal, by decide⟩
  rw [planArtifacts] at hplanned
  cases hplanned
  have hpath : dataSourcePath feature.name = "lib/feature/" ++ feature.name ++ "/data/" ++
      "datasources/" ++ feature.name ++ "_remote_data_source.dart" := by
    simp [dataSourcePath, dataSourceParts, ← String.toList_inj]
  rw [hpath] at hmem
  have htext := hrendered _ (List.mem_append_right _ (List.mem_cons_of_mem _ List.mem_cons_self))
    content hmem
  have hname : '.' ∉ feature.name.toList :=
    dot_notMem fun c hc => by simpa [Dart.isNameChar] using hword.2 c hc
  exact references_dataSource hname hpascal hroot
    (isNameChar_of_isAlphanum (endpointConstant_isAlphanum feature.path).2) htext

end DartLayers
