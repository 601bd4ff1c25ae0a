import DartLayers.Proofs.Plan.Paths
import DartLayers.Proofs.Steps
import DartLayers.Proofs.Text.Cases

/-!
# DartLayers — a run stage by stage

A run is prepared without looking at a file. If the files are ready they are written, and only if all
of them are written the manifest of the project is extended. These are the equations of the stages,
and what is known of files that are ready.

* **`generateLayers_eq`**, **`commit_eq`** — the stages of a run.
* **`prepare_eq_ready`** — files that are ready come from a plan for the feature of the endpoint.
* **`ready_paths`** — they have the planned paths.
-/

namespace DartLayers

variable {settings : Settings} {source : SampleSource} {endpoint method : String}
  {feature : Feature} {artifacts : List Artifact} {session final : Session}

/-! ## Preparation -/

/-- The files that an approved plan makes ready are the rendered ones. -/
theorem renderApproved_eq_ready {planned : List Artifact} {described : Feature}
    (h : (renderApproved settings described planned).run session =
      (.ok (.ready feature artifacts), final)) :
    described = feature ∧ Artifact.renderAll planned = .ok artifacts := by
  rw [renderApproved] at h
  obtain ⟨approved, asked, -, h⟩ := exists_ok_of_talk h
  cases approved with
  | false =>
    simp only [Bool.false_eq_true, if_false] at h
    obtain ⟨-, said, -, h⟩ := exists_ok_of_talk h
    cases h
  | true =>
    simp only [if_true] at h
    obtain ⟨-, said, -, h⟩ := exists_ok_of_talk h
    split at h
    · rename_i rendered hrendered
      cases h
      exact ⟨rfl, hrendered⟩
    · cases h

/-- Files that are ready were planned for the payload of the feature. -/
theorem prepareFeature_eq_ready {described : Feature}
    (h : (prepareFeature settings source described).run session =
      (.ok (.ready feature artifacts), final)) :
    described = feature ∧ ∃ (payload : Payload) (planned : List Artifact),
      planArtifacts (payload.schema feature) feature payload.rootWasList settings.timeout =
          .ok planned ∧
        Artifact.renderAll planned = .ok artifacts := by
  rw [prepareFeature] at h
  obtain ⟨-, said, -, h⟩ := exists_ok_of_talk h
  obtain ⟨obtained, asked, -, h⟩ := exists_ok_of_talk h
  split at h
  · rename_i payload
    rw [preparePayload] at h
    split at h
    · rename_i planned hplanned
      obtain ⟨rfl, hrendered⟩ := renderApproved_eq_ready h
      exact ⟨rfl, payload, planned, hplanned, hrendered⟩
    · cases h
  · cases h
  · obtain ⟨-, said, -, h⟩ := exists_ok_of_talk h
    cases h

/-- A feature that was described is that of the endpoint, with some base address. -/
theorem ofEndpoint_of_described {parsed : HttpMethod} {described : Session}
    (h : (describeFeature settings endpoint parsed).run session = (.ok feature, described)) :
    ∃ base : Option String, Feature.ofEndpoint endpoint parsed base = .ok feature := by
  rw [describeFeature] at h
  obtain ⟨base, resolved, -, h⟩ := exists_ok_of_talk h
  split at h
  · rename_i found hfound
    cases h
    exact ⟨base, hfound⟩
  · cases h

/-- The name of a feature is a word, however it was described. -/
theorem isWord_of_described {parsed : HttpMethod} {described : Session}
    (h : (describeFeature settings endpoint parsed).run session = (.ok feature, described)) :
    IsWord feature.name := by
  obtain ⟨base, hfeature⟩ := ofEndpoint_of_described h
  exact (Feature.isNamed_of_ofEndpoint hfeature).isWord

/-- **Files that are ready come from a plan** for the feature of the endpoint. -/
theorem prepare_eq_ready
    (h : (prepare settings source endpoint method).run session =
      (.ok (.ready feature artifacts), final)) :
    ∃ (parsed : HttpMethod) (base : Option String) (payload : Payload) (planned : List Artifact),
      HttpMethod.parse? method = some parsed ∧
        Feature.ofEndpoint endpoint parsed base = .ok feature ∧
        planArtifacts (payload.schema feature) feature payload.rootWasList settings.timeout =
          .ok planned ∧
        Artifact.renderAll planned = .ok artifacts := by
  rw [prepare] at h
  split at h
  · rename_i parsed hparsed
    obtain ⟨described, asked, hdescribed, h⟩ := exists_ok_of_talk h
    obtain ⟨rfl, payload, planned, hplanned, hrendered⟩ := prepareFeature_eq_ready h
    obtain ⟨base, hfeature⟩ := ofEndpoint_of_described hdescribed
    exact ⟨parsed, base, payload, planned, hparsed, hfeature, hplanned, hrendered⟩
  · cases h

/-- **Files that are ready have the planned paths.** -/
theorem ready_paths
    (h : (prepare settings source endpoint method).run session =
      (.ok (.ready feature artifacts), final)) :
    IsWord feature.name ∧ artifacts.map Artifact.path = plannedPaths feature.name := by
  obtain ⟨parsed, base, payload, planned, -, hfeature, hplanned, hrendered⟩ := prepare_eq_ready h
  exact ⟨(Feature.isNamed_of_ofEndpoint hfeature).isWord,
    (renderAll_paths hrendered).trans (planArtifacts_paths hplanned)⟩

/-! ## The stages of a run -/

/-- **A run is its preparation**, and the commitment of the files if they are ready. -/
theorem generateLayers_eq (settings : Settings) (source : SampleSource) (endpoint method : String)
    (tree : FileTree) (session : Session) :
    (generateLayers settings source endpoint method).run tree session =
      match (prepare settings source endpoint method).run session with
      | (.error interruption, session) => ((.error interruption, tree), session)
      | (.ok (.failed feature message), session) =>
        ((.ok { feature, error := some message }, tree), session)
      | (.ok (.declined feature), session) =>
        ((.ok { aborted := true, feature := some feature }, tree), session)
      | (.ok (.ready feature artifacts), session) =>
        (Run.commit settings feature artifacts).run tree session := by
  have hlift : (liftM (prepare settings source endpoint method).run :
      ExceptT Interruption Work (Except Interruption Preparation)).run tree session =
        match (prepare settings source endpoint method).run session with
        | (result, session) => ((.ok result, tree), session) := rfl
  rw [generateLayers, work_bind, hlift]
  rcases (prepare settings source endpoint method).run session with ⟨interruption | preparation, _⟩
  · rfl
  · cases preparation <;> rfl

/-- The files of artifacts, by path and content. -/
def Run.files (artifacts : List Artifact) : List (String × String) :=
  artifacts.map fun artifact => (artifact.path, artifact.content)

/-- **The commitment of files** is their writing, and the registration of the dependencies if all of
them were written. -/
theorem commit_eq (settings : Settings) (feature : Feature) (artifacts : List Artifact)
    (tree : FileTree) (session : Session) :
    (Run.commit settings feature artifacts).run tree session =
      match writeAllMerged (Run.overwritePolicy settings) settings.outputDirectory
          (Run.files artifacts) tree session with
      | (⟨outcomes, none⟩, tree, session) =>
        (Run.finish settings feature outcomes).run tree session
      | (⟨outcomes, some (.refused path refusal)⟩, tree, session) =>
        ((.ok { feature := some feature, outcomes, error := some (refusedMessage path refusal) },
            tree),
          session.logged (Run.outcomeTable outcomes ++ [.error (refusedMessage path refusal)]))
      | (⟨_, some (.unreported path refusal)⟩, tree, session) =>
        ((.error (.file path refusal), tree), session)
      | (⟨_, some (.policy fault)⟩, tree, session) => ((.error (.markup fault), tree), session) := by
  have hlift : (liftM (Run.writeArtifacts settings artifacts) :
      ExceptT Interruption Work (Written Markup.Fault)).run tree session =
        let merged := writeAllMerged (Run.overwritePolicy settings) settings.outputDirectory
          (Run.files artifacts) tree session
        ((.ok merged.1, merged.2.1), merged.2.2) := rfl
  rw [Run.commit, work_bind, hlift]
  generalize writeAllMerged (Run.overwritePolicy settings) settings.outputDirectory
    (Run.files artifacts) tree session = result
  obtain ⟨⟨outcomes, stop⟩, tree, session⟩ := result
  cases stop with
  | none => rfl
  | some stop => cases stop <;> rfl

/-! ## The manifest -/

/-- The site of the manifest, if the settings name a project. -/
def Run.manifestSites (settings : Settings) (tree : FileTree) : List Location :=
  (settings.project.map fun project => tree.siteOf (manifestPath project)).toList

/-- The manifest stays where it is while a tree grows. -/
theorem manifestSites_of_grows {sites : List Location} {before after : FileTree}
    (h : FileTree.Grows sites before after) :
    Run.manifestSites settings after = Run.manifestSites settings before := by
  rw [Run.manifestSites, Run.manifestSites]
  simp only [h.siteOf]

theorem namesFile_manifestPath (project : PathName) :
    FileTree.NamesFile (manifestPath project) :=
  ⟨project.parts, manifestName, rfl, by decide⟩

/-- Extending a manifest writes at most the manifest. -/
theorem updateManifest_grows {tree after : FileTree} (hfree : tree.LinkFree) {project : PathName}
    {required : List (String × String)} {added : List String}
    (h : updateManifest project required tree = .ok (added, after)) :
    FileTree.Grows [tree.siteOf (manifestPath project)] tree after := by
  rw [updateManifest] at h
  obtain ⟨text, -, h⟩ := exists_ok_of_bind h
  split at h
  · cases h
  · split at h
    · cases h
      exact .refl _ _
    · split at h
      · cases h
      · rename_i hwrite
        cases h
        exact (FileTree.writeText_eq_ok hfree (namesFile_manifestPath project) hwrite).1

/-- The registration of the dependencies writes at most the manifest. -/
theorem registerIfAsked_grows {tree after : FileTree} (hfree : tree.LinkFree)
    {result : Except Interruption (List String)}
    (h : (Run.registerIfAsked settings).run tree session = ((result, after), final)) :
    FileTree.Grows (Run.manifestSites settings tree) tree after := by
  rw [Run.registerIfAsked] at h
  split at h
  · cases h
    exact .refl _ _
  · rename_i project hproject
    rw [Run.manifestSites, hproject]
    have hget : (get : ExceptT Interruption Work FileTree).run tree session =
      ((.ok tree, tree), session) := rfl
    rw [Run.registerDependencies, work_bind, hget] at h
    dsimp only at h
    split at h
    · rename_i added updated hupdate
      have hafter : updated = after := by
        cases h
        rfl
      subst hafter
      exact updateManifest_grows hfree hupdate
    · -- An update that fails has left the tree, whatever is said about it.
      rename_i fault hfault
      have hafter : after = tree := by
        cases hentry : Run.updateFaultEntry fault with
        | error interruption =>
          rw [hentry] at h
          cases h
          rfl
        | ok entry =>
          rw [hentry] at h
          cases h
          rfl
      rw [hafter]
      exact .refl _ _

/-- Files that are all written make a run succeed, unless the manifest interrupts it. -/
theorem finish_grows {tree after : FileTree} (hfree : tree.LinkFree)
    {outcomes : List (String × Outcome)} {result : Except Interruption RunResult}
    (h : (Run.finish settings feature outcomes).run tree session = ((result, after), final)) :
    FileTree.Grows (Run.manifestSites settings tree) tree after ∧
      ∀ report, result = .ok report → report.success = true ∧ report.outcomes = outcomes ∧
        report.feature = some feature := by
  rw [Run.finish, work_bind] at h
  rcases hregister : (Run.registerIfAsked settings).run tree session with
    ⟨⟨interruption | added, updated⟩, registered⟩
  · rw [hregister] at h
    cases h
    exact ⟨registerIfAsked_grows hfree hregister, fun _ h => by cases h⟩
  · rw [hregister] at h
    cases h
    refine ⟨registerIfAsked_grows hfree hregister, fun report hreport => ?_⟩
    cases hreport
    exact ⟨rfl, rfl, rfl⟩

/-- Without a project a run ends with some words. -/
theorem finish_eq (hproject : settings.project = none) (outcomes : List (String × Outcome))
    (tree : FileTree) (session : Session) :
    (Run.finish settings feature outcomes).run tree session =
      ((.ok { success := true, feature := some feature, outcomes }, tree),
        session.logged (Run.outcomeTable outcomes ++
          [.success ("Generated clean architecture for endpoint: " ++ feature.path)])) := by
  rw [Run.finish, Run.registerIfAsked, hproject]
  rfl

end DartLayers
