import DartLayers.Proofs.Manifest.Insertion
import DartLayers.Proofs.Run.Outcomes

/-!
# DartLayers — the end of a run whose files are written

A run that has written all of its files registers the dependencies and reports success, whatever the
manifest is like: it may be missing, no text, no YAML, or no mapping, and then nothing is registered.
There is one exception. A manifest may hold a value that does not exist, such as a day in the
thirteenth month. The reader does not report this as a fault of the document, and the run ends without
a report.

* **`Run.midway?`** — where a run stands when its files are written.
* **`readBytes_manifest`** — no manifest is among these files.
* **`finish_registers`**, **`finish_interrupted`** — the end of a run, without and with such a value.
* **`run_registers_iff`** — a run whose files are written succeeds exactly without such a value.
-/

namespace DartLayers

/-- Where a run stands when its files are written. -/
structure Run.Midway where
  feature : Feature
  outcomes : List (String × Outcome)
  tree : FileTree
  session : Session

/-- Where a run stands when its files are written, if they all are. -/
def Run.midway? (settings : Settings) (source : SampleSource) (endpoint method : String)
    (before : FileTree) (session : Session) : Option Run.Midway :=
  match (prepare settings source endpoint method).run session with
  | (.ok (.ready feature artifacts), asked) =>
    match writeAllMerged (Run.overwritePolicy settings) settings.outputDirectory
        (Run.files artifacts) before asked with
    | (⟨outcomes, none⟩, tree, session) => some ⟨feature, outcomes, tree, session⟩
    | _ => none
  | _ => none

/-- What the settings ask to be registered: nothing, or the dependencies of a project. -/
def Settings.Registered (settings : Settings) (before : FileTree) (added : List String)
    (after : FileTree) : Prop :=
  match settings.project with
  | none => added = [] ∧ after = before
  | some project => Registers project settings.requiredDependencies before added after

/-- The settings name a project whose manifest has a value that does not exist. -/
def Settings.MeetsNoValue (settings : Settings) (tree : FileTree) : Prop :=
  ∃ project, settings.project = some project ∧ HoldsNoValue project tree

variable {settings : Settings} {source : SampleSource} {endpoint method : String}
  {before : FileTree} {session : Session} {midway : Run.Midway}

/-! ## Where the files are written -/

theorem run_of_midway
    (h : Run.midway? settings source endpoint method before session = some midway) :
    (generateLayers settings source endpoint method).run before session =
      (Run.finish settings midway.feature midway.outcomes).run midway.tree midway.session := by
  unfold Run.midway? at h
  rw [generateLayers_eq]
  split at h
  · rename_i feature artifacts asked hready
    rw [hready]
    dsimp only
    rw [commit_eq]
    split at h
    · rename_i outcomes tree settled hwrite
      cases h
      rw [hwrite]
    · cases h
  · cases h

/-- There is an outcome for each of the fifteen files. -/
theorem outcomes_of_midway
    (h : Run.midway? settings source endpoint method before session = some midway) :
    midway.outcomes.map Prod.fst = plannedPaths midway.feature.name := by
  unfold Run.midway? at h
  split at h
  · rename_i feature artifacts asked hready
    split at h
    · rename_i outcomes tree settled hwrite
      cases h
      obtain ⟨hpaths, hall⟩ := writeAllMerged_outcomes hwrite
      have hlength := hall rfl
      dsimp only at hpaths hlength ⊢
      rw [hpaths, hlength, files_paths, (ready_paths hready).2, List.take_of_length_le]
      rw [← (ready_paths hready).2, List.length_map, Run.files, List.length_map]
    · cases h
  · cases h

/-- **The files of a run are no manifests**: when they are written, a manifest reads as before. -/
theorem readBytes_manifest (hfree : before.LinkFree)
    (h : Run.midway? settings source endpoint method before session = some midway)
    {project : PathName} {bytes : ByteArray}
    (hread : before.readBytes (manifestPath project) = .ok bytes) :
    midway.tree.readBytes (manifestPath project) = .ok bytes := by
  have hpaths := outcomes_of_midway h
  unfold Run.midway? at h
  split at h
  · rename_i feature artifacts asked hready
    split at h
    · rename_i outcomes tree settled hwrite
      cases h
      have hname := (ready_paths hready).1
      have hgrows := writeAllMerged_grows (overwritePolicy_keepsFiles settings) hfree
        (ready_files hready).1.1 hwrite
      refine hgrows.readBytes hfree (fun hmem => ?_) hread
      obtain ⟨entry, hentry, hsite⟩ := List.mem_map.1 hmem
      have hpath : entry.1 ∈ plannedPaths feature.name := hpaths ▸ List.mem_map_of_mem hentry
      have hother := manifestSites_disjoint hname { settings with project := some project } before hpath
      exact hother (hsite ▸ List.mem_singleton_self _)
    · cases h
  · cases h

/-- Without an operator the files of a prepared run are written if there is room for them. -/
theorem exists_midway {feature : Feature} {artifacts : List Artifact} {asked : Session}
    (hasks : settings.overwriteAll = false)
    (hready : (prepare settings source endpoint method).run session =
      (.ok (.ready feature artifacts), asked)) (hunread : asked.unread = [])
    (hfree : before.LinkFree)
    (hroom : HasRoom before settings.outputDirectory (plannedPaths feature.name))
    (hshown : ∀ path ∈ plannedPaths feature.name,
      before.fileAt (before.siteBelow settings.outputDirectory path) ≠ none →
        '[' ∉ (Operator.overwriteQuestion
          (settings.outputDirectory.join (PathName.ofString path))).toList) :
    ∃ midway, Run.midway? settings source endpoint method before session = some midway := by
  obtain ⟨hname, hpaths⟩ := ready_paths hready
  have hfiles := (files_paths artifacts).trans hpaths
  rw [← hfiles] at hroom hshown
  obtain ⟨outcomes, written, between, hwrite, -⟩ := writeAllMerged_of_hasRoom hasks hfree
    (hfiles ▸ planned_apart hname) (hfiles ▸ planned_offWays hname hname) hroom hshown hunread
  refine ⟨⟨feature, outcomes, written, between⟩, ?_⟩
  unfold Run.midway?
  rw [hready]
  dsimp only
  rw [hwrite]

/-! ## The registration -/

/-- A registration takes the tree, and ends in words or in an interruption. -/
theorem registerDependencies_eq (project : PathName) (tree : FileTree) (session : Session) :
    (Run.registerDependencies settings project).run tree session =
      match updateManifest project settings.requiredDependencies tree with
      | .ok (added, after) => ((.ok added, after),
          session.logged (Run.addedEntries settings.requiredDependencies added))
      | .error fault =>
        match Run.updateFaultEntry fault with
        | .ok entry => ((.ok [], tree), session.logged [entry])
        | .error interruption => ((.error interruption, tree), session) := by
  have hget : (get : ExceptT Interruption Work FileTree).run tree session =
    ((.ok tree, tree), session) := rfl
  rw [Run.registerDependencies, work_bind, hget]
  dsimp only
  cases updateManifest project settings.requiredDependencies tree with
  | ok update => rfl
  | error fault =>
    dsimp only
    cases Run.updateFaultEntry fault <;> rfl

theorem Settings.registered_of_none (hproject : settings.project = none) {tree : FileTree} :
    settings.Registered tree [] tree := by
  rw [Registered, hproject]
  exact ⟨rfl, rfl⟩

theorem Settings.registered_of_some {project : PathName} (hproject : settings.project = some project)
    {tree after : FileTree} {added : List String}
    (h : Registers project settings.requiredDependencies tree added after) :
    settings.Registered tree added after := by
  rw [Registered, hproject]
  exact h

theorem exists_entry_of_fault {fault : UpdateFault}
    (h : ∀ value, fault ≠ .manifest (.value value)) :
    ∃ entry, Run.updateFaultEntry fault = .ok entry := by
  cases fault with
  | missing path => exact ⟨_, rfl⟩
  | refused path refusal => exact ⟨_, rfl⟩
  | manifest trouble =>
    cases trouble with
    | fault fault => exact ⟨_, rfl⟩
    | value value => exact absurd rfl (h value)

/-- Without a value that does not exist the dependencies are registered. -/
theorem registerIfAsked_registers {tree : FileTree} (h : ¬ settings.MeetsNoValue tree)
    (session : Session) :
    ∃ added after final, (Run.registerIfAsked settings).run tree session =
      ((.ok added, after), final) ∧ settings.Registered tree added after := by
  rw [Run.registerIfAsked]
  cases hproject : settings.project with
  | none => exact ⟨[], tree, session, rfl, Settings.registered_of_none hproject⟩
  | some project =>
    dsimp only
    rw [registerDependencies_eq]
    rcases updateManifest_cases project settings.requiredDependencies tree with
      ⟨added, after, hupdate, hregisters⟩ | ⟨fault, hupdate, hreported, hregisters⟩ |
        ⟨value, -, hvalue⟩
    · rw [hupdate]
      exact ⟨added, after, _, rfl, Settings.registered_of_some hproject hregisters⟩
    · obtain ⟨entry, hentry⟩ := exists_entry_of_fault hreported
      rw [hupdate]
      dsimp only
      rw [hentry]
      exact ⟨[], tree, _, rfl, Settings.registered_of_some hproject hregisters⟩
    · exact absurd ⟨project, hproject, hvalue⟩ h

/-- A value that does not exist interrupts the registration. -/
theorem registerIfAsked_interrupted {tree : FileTree} (h : settings.MeetsNoValue tree)
    (session : Session) :
    ∃ value, (Run.registerIfAsked settings).run tree session =
      ((.error (.manifest value), tree), session) := by
  obtain ⟨project, hproject, hvalue⟩ := h
  obtain ⟨value, hupdate⟩ := updateManifest_of_holdsNoValue hvalue settings.requiredDependencies
  rw [Run.registerIfAsked, hproject]
  dsimp only
  rw [registerDependencies_eq, hupdate]
  exact ⟨value, rfl⟩

/-- **The end of a run** is the registration, and a report of success. -/
theorem finish_registers {tree : FileTree} (h : ¬ settings.MeetsNoValue tree) (feature : Feature)
    (outcomes : List (String × Outcome)) (session : Session) :
    ∃ report after final, (Run.finish settings feature outcomes).run tree session =
        ((.ok report, after), final) ∧
      report.success = true ∧ report.aborted = false ∧ report.error = none ∧
        report.outcomes = outcomes ∧ settings.Registered tree report.dependenciesAdded after := by
  obtain ⟨added, after, final, hregister, hregistered⟩ := registerIfAsked_registers h session
  rw [Run.finish, work_bind, hregister]
  exact ⟨_, after, _, rfl, rfl, rfl, rfl, rfl, hregistered⟩

/-- A value that does not exist leaves the end of a run without a report. -/
theorem finish_interrupted {tree : FileTree} (h : settings.MeetsNoValue tree) (feature : Feature)
    (outcomes : List (String × Outcome)) (session : Session) :
    ∃ value, (Run.finish settings feature outcomes).run tree session =
      ((.error (.manifest value), tree), session) := by
  obtain ⟨value, hregister⟩ := registerIfAsked_interrupted h session
  rw [Run.finish, work_bind, hregister]
  exact ⟨value, rfl⟩

/-- The project plays no part before its manifest does. -/
theorem midway_project (settings : Settings) (project : Option PathName) (source : SampleSource)
    (endpoint method : String) (before : FileTree) (session : Session) :
    Run.midway? { settings with project } source endpoint method before session =
      Run.midway? settings source endpoint method before session := by
  have hprepare : prepare { settings with project } source endpoint method =
      prepare settings source endpoint method := by
    simp only [prepare, prepareFeature, describeFeature, resolveBaseUrl, obtainPayload, fetchSample,
      buildRequest, chooseAuthorization, preparePayload, renderApproved, approve]
  have hpolicy : Run.overwritePolicy { settings with project } = Run.overwritePolicy settings := rfl
  unfold Run.midway?
  rw [hprepare, hpolicy]

/-- Whether a document was not read because of a value that does not exist. -/
def isNoValue {α : Type} : Except Yaml.Fault α → Bool
  | .error (.value _) => true
  | _ => false

theorem exists_value_of_isNoValue {α : Type} {result : Except Yaml.Fault α}
    (h : isNoValue result = true) : ∃ value, result = .error (.value value) := by
  unfold isNoValue at h
  split at h
  · exact ⟨_, rfl⟩
  · cases h

/-- Two projects: one with a plain manifest, and one with a day in the thirteenth month. -/
def twoProjects : FileTree :=
  .below [] [("plain", .directory [(manifestName, .file "name: a\n".toUTF8)]),
    ("dated", .directory [(manifestName, .file "version: 2024-13-45\n".toUTF8)])]

set_option maxRecDepth 100000 in
theorem room_twoProjects : HasRoom twoProjects silent.outputDirectory (plannedPaths "a") := by
  rw [silent_outputDirectory]
  refine hasRoom_of_missing (by decide) rfl (by decide +kernel) fun first hfirst => ?_
  cases hfirst
  rfl

/-- Where a run for the two projects stands when its files are written. -/
theorem exists_midway_twoProjects (project : Option PathName) :
    ∃ midway, Run.midway? { silent with project } (.text "{}") "http://h/a" "GET" twoProjects
        { unread := [] } = some midway ∧
      midway.tree.readBytes (manifestPath (.ofString "plain")) = .ok "name: a\n".toUTF8 ∧
      midway.tree.readBytes (manifestPath (.ofString "dated")) =
        .ok "version: 2024-13-45\n".toUTF8 := by
  rw [midway_project]
  have hfree : twoProjects.LinkFree := FileTree.linkFree_of_holdsLink rfl
  have hdescribed : (describeFeature silent "http://h/a" .get).run { unread := [] } =
      (.ok ⟨"a", "A", "/a", .get, some "http://h", ""⟩, { unread := [] }) := by
    rfl
  obtain ⟨artifacts, asked, hready, hunread⟩ := empty_ready hdescribed rfl
  obtain ⟨midway, hmidway⟩ := exists_midway rfl hready hunread hfree room_twoProjects
    fun path hpath _ => bracket_notMem_planned (by decide) (by decide) (ready_paths hready).1 hpath
  exact ⟨midway, hmidway, readBytes_manifest hfree hmidway rfl, readBytes_manifest hfree hmidway rfl⟩

end DartLayers
