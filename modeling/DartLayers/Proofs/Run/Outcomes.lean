import DartLayers.Proofs.Run.Readiness
import DartLayers.Proofs.Run.Room

/-!
# DartLayers — the outcomes of a run

A run reports one outcome for each file that it dealt with. The report is faithful to the trees
before and after: the listed files are the first ones of the plan, each outcome says what became of
its file, and no file was touched that is not listed, the manifest of the project apart. There is one
way to be unfaithful, and it concerns the first file of the plan only: the output directory may go
up again from a directory that is missing, and then a file that is there is overlooked. A run stops
at a file for one of the reasons of `Refusal`; permissions and space are not among them.

* **`Faithful`** — a report is right about the trees.
* **`generateLayers_faithful_iff`** — a run is faithful exactly if it did not overlook the registry.
* **`generateLayers_grows`** — a run writes the sites of the listed files and the manifest at most.
-/

namespace DartLayers

/-! ## Faithful reports -/

/-- The path of the first file of every plan, the registry of the endpoints. -/
def registryPath : String := "lib/core/network/api_constants.dart"

/-- The sites of the files with the given paths below the output directory. -/
def Run.sites (settings : Settings) (tree : FileTree) (paths : List String) : List Location :=
  paths.map (tree.siteBelow settings.outputDirectory)

/-- A run stopped at one of its files. The files before it are listed; the ones behind it play no
part, so that with any others in their place the run, its dialogue included, would have been the
same; and the manifest is untouched. -/
structure StoppedAt (settings : Settings) (feature : Feature) (before after : FileTree)
    (asked final : Session) (report : RunResult) (done : List Artifact) (stopped : Artifact)
    (refusal : Refusal) : Prop where
  listed : report.outcomes.map Prod.fst = done.map Artifact.path
  message : report.error = some (refusedMessage
    (settings.outputDirectory.join (PathName.ofString stopped.path)) refusal)
  alone : ∀ others, (Run.commit settings feature (done ++ stopped :: others)).run before asked =
    ((.ok report, after), final)
  manifest : ∀ location ∈ Run.manifestSites settings before,
    after.fileAt location = before.fileAt location

/-- The report of a run that writes artifacts is right about the trees and sessions before and
after. -/
structure Faithful (settings : Settings) (feature : Feature) (artifacts : List Artifact)
    (before after : FileTree) (asked final : Session) (report : RunResult) : Prop where
  complete : report.success = true → report.outcomes.map Prod.fst = plannedPaths feature.name
  stopped : report.success = false → ∃ done stopped behind refusal,
    artifacts = done ++ stopped :: behind ∧
      StoppedAt settings feature before after asked final report done stopped refusal
  reported : List.Forall₂ (Recorded before after settings.outputDirectory)
    ((Run.files artifacts).take report.outcomes.length) report.outcomes
  others : ∀ location,
    location ∉ Run.sites settings before (report.outcomes.map Prod.fst) →
      location ∉ Run.manifestSites settings before → after.fileAt location = before.fileAt location

variable {settings : Settings} {source : SampleSource} {endpoint method : String}
  {feature : Feature} {artifacts : List Artifact} {before written after : FileTree}
  {session asked final : Session} {report : RunResult}

/-! ## Sites of a run -/

/-- Settling conflicts with the operator leaves the files alone. -/
theorem overwritePolicy_keepsFiles (settings : Settings) :
    (Run.overwritePolicy settings).KeepsFiles := by
  intro path tree session
  rw [Run.overwritePolicy]
  dsimp only
  split <;> rfl

/-- No planned file is called like the manifest. -/
theorem plannedParts_getLast (name : String) :
    ∀ parts ∈ plannedParts name, parts.getLast? ≠ some manifestName := by
  have hcore : ∀ parts ∈ coreParts, parts.getLast? ≠ some manifestName := by decide
  have hsuffix : ∀ text suffix : String, suffix.toList.getLast? = some 't' →
      some (text ++ suffix) ≠ some manifestName := by
    intro text suffix hlast hsame
    have hend := congrArg (fun part : String => part.toList.getLast?) (Option.some.inj hsame)
    simp [List.getLast?_append, hlast, manifestName] at hend
  intro parts hparts
  rcases List.mem_append.1 hparts with hfixed | hfeature
  · exact hcore parts hfixed
  · simp only [featureParts, List.mem_cons, List.not_mem_nil, or_false] at hfeature
    rcases hfeature with rfl | rfl | rfl | rfl | rfl | rfl | rfl <;>
      exact hsuffix _ _ (by decide)

/-- The manifest is called as it has to be. -/
theorem exists_of_mem_manifestSites {settings : Settings} {tree : FileTree} {location : Location}
    (h : location ∈ Run.manifestSites settings tree) :
    ∃ front, location = front ++ [manifestName] := by
  rw [Run.manifestSites, Option.mem_toList, Option.map_eq_some_iff] at h
  obtain ⟨project, -, rfl⟩ := h
  refine ⟨siteFrom (tree.startOf (manifestPath project)) project.parts, ?_⟩
  rw [FileTree.siteOf, show (manifestPath project).parts = project.parts ++ [manifestName] from
    rfl, siteFrom_append, siteFrom_of_names (by decide)]

/-- The manifest is none of the planned files. -/
theorem manifestSites_disjoint {name : String} (hname : IsWord name) (settings : Settings)
    (tree : FileTree) {path : String} (hpath : path ∈ plannedPaths name) :
    tree.siteBelow settings.outputDirectory path ∉ Run.manifestSites settings tree := by
  have hdown := (planned_apart hname).1 path hpath
  obtain ⟨parts, hparts, rfl⟩ := List.mem_map.1 hpath
  intro hmem
  -- The last name on the way to the one is the manifest's, on the way to the other it is not.
  obtain ⟨front, hsite⟩ := exists_of_mem_manifestSites hmem
  have hplanned := plannedParts_getLast name parts hparts
  rw [hdown.siteBelow_eq, pathParts_planned hname hparts] at hsite
  have hlast := congrArg List.getLast? hsite
  rw [List.getLast?_concat, List.getLast?_append_of_ne_nil _
    (plannedParts_isSegment hname parts hparts).1] at hlast
  exact hplanned hlast

/-- The paths and contents of files that are ready. -/
theorem files_paths (artifacts : List Artifact) :
    (Run.files artifacts).map Prod.fst = artifacts.map Artifact.path := by
  rw [Run.files, List.map_map]
  rfl

/-! ## The writing of a run -/

/-- Where the writing of files stops, it would have stopped so with other files behind. -/
theorem commit_stopped {outcomes : List (String × Outcome)} {stop : WriteStop Markup.Fault}
    {between : Session}
    (hwrite : writeAllMerged (Run.overwritePolicy settings) settings.outputDirectory
      (Run.files artifacts) before asked = (⟨outcomes, some stop⟩, written, between)) :
    ∃ done stopped behind, artifacts = done ++ stopped :: behind ∧
      outcomes.map Prod.fst = done.map Artifact.path ∧
        (∀ path refusal, stop = .refused path refusal →
          path = settings.outputDirectory.join (PathName.ofString stopped.path)) ∧
        ∀ others, (Run.commit settings feature (done ++ stopped :: others)).run before asked =
          (Run.commit settings feature artifacts).run before asked := by
  obtain ⟨doneFiles, stoppedFile, behindFiles, hfiles, hlisted, hrefused, hsame⟩ :=
    writeAllMerged_stopped hwrite (Option.some_ne_none stop)
  obtain ⟨done, tail, rfl, rfl, htail⟩ := List.map_eq_append_iff.1 hfiles
  obtain ⟨stopped, behind, rfl, rfl, rfl⟩ := List.map_eq_cons_iff.1 htail
  refine ⟨done, stopped, behind, rfl, ?_, fun path refusal hstop => ?_, fun others => ?_⟩
  · rw [hlisted]
    exact files_paths done
  · exact hrefused path refusal (congrArg some hstop)
  · have hothers : Run.files (done ++ stopped :: others) =
        Run.files done ++ (stopped.path, stopped.content) :: Run.files others := by
      simp [Run.files]
    rw [commit_eq, commit_eq, hothers, hwrite]
    rw [Run.files, hsame]

section

variable (hready : (prepare settings source endpoint method).run session =
  (.ok (.ready feature artifacts), asked))

include hready

/-- Files that are ready lead to different places, the registry first. -/
theorem ready_files : Apart ((Run.files artifacts).map Prod.fst) ∧
    ∃ content rest, Run.files artifacts = (registryPath, content) :: rest := by
  obtain ⟨hname, hpaths⟩ := ready_paths hready
  rw [← files_paths] at hpaths
  refine ⟨hpaths ▸ planned_apart hname, ?_⟩
  cases hfiles : Run.files artifacts with
  | nil =>
    rw [hfiles] at hpaths
    cases hpaths
  | cons file rest =>
    rw [hfiles] at hpaths
    have hfirst : file.1 = registryPath := (List.cons.inj hpaths).1
    exact ⟨file.2, rest, by rw [← hfirst]⟩

/-- The files of a run that reaches the writing: all were written and the manifest may have been, or
one of them could not be written. -/
theorem generateLayers_written (hfree : before.LinkFree)
    (hrun : (generateLayers settings source endpoint method).run before session =
      ((.ok report, after), final)) :
    ∃ stop written between,
      writeAllMerged (Run.overwritePolicy settings) settings.outputDirectory
          (Run.files artifacts) before asked = (⟨report.outcomes, stop⟩, written, between) ∧
        FileTree.Grows (Run.manifestSites settings before) written after ∧
        report.feature = some feature ∧
        (stop = none ∧ report.success = true ∨
          ∃ path refusal, stop = some (.refused path refusal) ∧ report.success = false ∧
            report.error = some (refusedMessage path refusal) ∧ after = written) := by
  rw [generateLayers_eq, hready] at hrun
  dsimp only at hrun
  rw [commit_eq] at hrun
  rcases hwrite : writeAllMerged (Run.overwritePolicy settings) settings.outputDirectory
    (Run.files artifacts) before asked with ⟨⟨outcomes, stop⟩, written, between⟩
  have hgrows := writeAllMerged_grows (overwritePolicy_keepsFiles settings) hfree
    (ready_files hready).1.1 hwrite
  rw [hwrite] at hrun
  split at hrun
  · rename_i hsome
    cases hsome
    obtain ⟨hmanifest, hreport⟩ := finish_grows (hgrows.linkFree hfree) hrun
    obtain ⟨hsuccess, houtcomes, hfeature⟩ := hreport report rfl
    rw [manifestSites_of_grows hgrows] at hmanifest
    exact ⟨none, written, between, by rw [houtcomes], hmanifest, hfeature, .inl ⟨rfl, hsuccess⟩⟩
  · -- The manifest is left alone where a file was refused.
    rename_i path refusal _ _ hsome
    cases hsome
    cases hrun
    exact ⟨_, _, _, rfl, .refl _ _, rfl, .inr ⟨path, refusal, rfl, rfl, rfl, rfl⟩⟩
  · cases hrun
  · cases hrun

/-- A run takes nothing away. -/
theorem generateLayers_grows (hfree : before.LinkFree)
    (hrun : (generateLayers settings source endpoint method).run before session =
      ((.ok report, after), final)) :
    FileTree.Grows (Run.sites settings before (report.outcomes.map Prod.fst) ++
      Run.manifestSites settings before) before after := by
  obtain ⟨stop, written, between, hwrite, hmanifest, -⟩ := generateLayers_written hready hfree hrun
  have hgrows := writeAllMerged_grows (overwritePolicy_keepsFiles settings) hfree
    (ready_files hready).1.1 hwrite
  rw [Run.sites, List.map_map]
  exact hgrows.trans hmanifest

/-- A file that has an outcome is there when the run has ended, with its content or as it was. -/
theorem generateLayers_fileAt (hfree : before.LinkFree)
    (hrun : (generateLayers settings source endpoint method).run before session =
      ((.ok report, after), final)) {path : String} {outcome : Outcome}
    (hmem : (path, outcome) ∈ report.outcomes) :
    ∃ content, (path, content) ∈ Run.files artifacts ∧
      after.fileAt (before.siteBelow settings.outputDirectory path) =
          outcome.bytes? content (before.fileAt (before.siteBelow settings.outputDirectory path)) ∧
        after.fileAt (before.siteBelow settings.outputDirectory path) ≠ none := by
  obtain ⟨hname, hpaths⟩ := ready_paths hready
  obtain ⟨hapart, content, rest, hfiles⟩ := ready_files hready
  obtain ⟨stop, written, between, hwrite, hmanifest, -⟩ := generateLayers_written hready hfree hrun
  rw [hfiles] at hapart hwrite
  obtain ⟨text, hfile, hbytes⟩ := writeAllMerged_fileAt (overwritePolicy_keepsFiles settings) hfree
    hapart hwrite hmem
  rw [← hfiles] at hfile
  have hpath : path ∈ plannedPaths feature.name := by
    rw [← hpaths, ← files_paths]
    exact List.mem_map_of_mem hfile
  refine ⟨text, hfile, ?_⟩
  rw [hmanifest.files _ (manifestSites_disjoint hname settings before hpath)]
  exact hbytes

/-- What a run lists, and which files it leaves alone. -/
theorem generateLayers_listed (hfree : before.LinkFree)
    (hrun : (generateLayers settings source endpoint method).run before session =
      ((.ok report, after), final)) :
    (report.success = true → report.outcomes.map Prod.fst = plannedPaths feature.name) ∧
      (report.success = false → ∃ done stopped behind refusal,
        artifacts = done ++ stopped :: behind ∧
          StoppedAt settings feature before after asked final report done stopped refusal) ∧
      ∀ location,
        location ∉ Run.sites settings before (report.outcomes.map Prod.fst) →
          location ∉ Run.manifestSites settings before →
            after.fileAt location = before.fileAt location := by
  obtain ⟨hname, hpaths⟩ := ready_paths hready
  obtain ⟨hapart, -⟩ := ready_files hready
  obtain ⟨stop, written, between, hwrite, hmanifest, -, hend⟩ :=
    generateLayers_written hready hfree hrun
  have hgrows := writeAllMerged_grows (overwritePolicy_keepsFiles settings) hfree hapart.1 hwrite
  obtain ⟨hlisted, hall⟩ := writeAllMerged_outcomes hwrite
  -- The manifest stands outside `lib`, so no file of the plan is written there.
  have hdisjoint : ∀ location ∈ Run.manifestSites settings before,
      location ∉ Run.sites settings before (report.outcomes.map Prod.fst) := by
    intro location hlocation hmem
    obtain ⟨path, hpath, rfl⟩ := List.mem_map.1 hmem
    rw [hlisted, files_paths, hpaths] at hpath
    exact manifestSites_disjoint hname settings before (List.mem_of_mem_take hpath) hlocation
  rw [Run.sites, List.map_map] at hdisjoint
  refine ⟨fun hsuccess => ?_, fun hfailure => ?_, fun location hsites hproject => ?_⟩
  · rcases hend with ⟨rfl, -⟩ | ⟨path, refusal, -, hfailure, -⟩
    · rw [hlisted, hall rfl, ← List.length_map (f := Prod.fst), List.take_length, files_paths, hpaths]
    · rw [hsuccess] at hfailure
      cases hfailure
  · rcases hend with ⟨-, hsuccess⟩ | ⟨path, refusal, rfl, -, hmessage, rfl⟩
    · rw [hfailure] at hsuccess
      cases hsuccess
    · obtain ⟨done, stopped, behind, hsplit, hdone, hrefused, hsame⟩ := commit_stopped hwrite
      refine ⟨done, stopped, behind, refusal, hsplit, hdone, ?_, fun others => ?_, ?_⟩
      · rw [hmessage, hrefused path refusal rfl]
      · rw [hsame others, ← hrun, generateLayers_eq, hready]
      · exact fun location hlocation => hgrows.files location (hdisjoint location hlocation)
  · refine (generateLayers_grows hready hfree hrun).files location ?_
    rw [List.mem_append, not_or]
    exact ⟨hsites, hproject⟩

/-- What was written is still there when the run has ended. -/
theorem recorded_iff_of_manifest
    (hmanifest : FileTree.Grows (Run.manifestSites settings before) written after)
    {file : String × String} (hfile : file ∈ Run.files artifacts) {entry : String × Outcome} :
    Recorded before written settings.outputDirectory file entry ↔
      Recorded before after settings.outputDirectory file entry := by
  obtain ⟨hname, hpaths⟩ := ready_paths hready
  have hpath : file.1 ∈ plannedPaths feature.name := by
    rw [← hpaths, ← files_paths]
    exact List.mem_map_of_mem hfile
  have hkept := hmanifest.files _ (manifestSites_disjoint hname settings before hpath)
  exact and_congr_right fun _ =>
    ⟨fun h => h.congr id rfl hkept, fun h => h.congr id rfl hkept.symm⟩

/-- The outcomes of a run are right exactly if it did not overlook the registry. -/
theorem generateLayers_reported_iff (hfree : before.LinkFree)
    (hrun : (generateLayers settings source endpoint method).run before session =
      ((.ok report, after), final)) :
    List.Forall₂ (Recorded before after settings.outputDirectory)
        ((Run.files artifacts).take report.outcomes.length) report.outcomes ↔
      (report.outcomes ≠ [] →
        ¬ Overlooked before (settings.outputDirectory.join (PathName.ofString registryPath))) := by
  obtain ⟨hapart, content, rest, hfiles⟩ := ready_files hready
  obtain ⟨stop, written, between, hwrite, hmanifest, -⟩ := generateLayers_written hready hfree hrun
  rw [hfiles] at hapart
  have hreported := writeAllMerged_reported_iff (overwritePolicy_keepsFiles settings) hfree hapart
    (hfiles ▸ hwrite)
  rw [← hreported, ← hfiles, List.forall₂_iff_zip, List.forall₂_iff_zip]
  have hsame : ∀ {file entry},
      (file, entry) ∈ ((Run.files artifacts).take report.outcomes.length).zip report.outcomes →
        (Recorded before written settings.outputDirectory file entry ↔
          Recorded before after settings.outputDirectory file entry) := fun hmem =>
    recorded_iff_of_manifest hready hmanifest (List.mem_of_mem_take (List.of_mem_zip hmem).1)
  exact and_congr_right fun _ =>
    ⟨fun h _ _ hmem => (hsame hmem).2 (h hmem), fun h _ _ hmem => (hsame hmem).1 (h hmem)⟩

/-- A run into an output directory that never goes up is faithful. -/
theorem generateLayers_faithful_of_names (hfree : before.LinkFree)
    (hdirectory : ∀ part ∈ settings.outputDirectory.parts, IsName part)
    (hrun : (generateLayers settings source endpoint method).run before session =
      ((.ok report, after), final)) :
    Faithful settings feature artifacts before after asked final report := by
  obtain ⟨hcomplete, hstopped, hothers⟩ := generateLayers_listed hready hfree hrun
  refine ⟨hcomplete, hstopped, (generateLayers_reported_iff hready hfree hrun).2 fun hsome => ?_,
    hothers⟩
  obtain ⟨hapart, content, rest, hfiles⟩ := ready_files hready
  obtain ⟨stop, written, between, hwrite, -⟩ := generateLayers_written hready hfree hrun
  rw [hfiles] at hapart hwrite
  have hdown := hapart.1 registryPath List.mem_cons_self
  exact not_overlooked_of_names hfree hdirectory hdown
    (accepted_of_outcomes (overwritePolicy_keepsFiles settings) hfree hdown hwrite hsome)

end

/-! ## Runs that list files -/

/-- A run that was not prepared fails and lists nothing. -/
theorem ready_or_idle
    (hrun : (generateLayers settings source endpoint method).run before session =
      ((.ok report, after), final)) :
    (∃ feature artifacts asked, (prepare settings source endpoint method).run session =
        (.ok (.ready feature artifacts), asked)) ∨
      (report.success = false ∧ report.outcomes = []) := by
  rw [generateLayers_eq] at hrun
  split at hrun
  · cases hrun
  · cases hrun
    exact .inr ⟨rfl, rfl⟩
  · cases hrun
    exact .inr ⟨rfl, rfl⟩
  · rename_i feature artifacts asked hprepare
    exact .inl ⟨feature, artifacts, asked, hprepare⟩

/-- A run that lists a file was prepared. -/
theorem ready_of_outcomes
    (hrun : (generateLayers settings source endpoint method).run before session =
      ((.ok report, after), final)) (hsome : report.outcomes ≠ []) :
    ∃ feature artifacts asked, (prepare settings source endpoint method).run session =
      (.ok (.ready feature artifacts), asked) :=
  (ready_or_idle hrun).resolve_right fun hidle => hsome hidle.2

/-- The outcomes that a run lists. -/
def Run.listed (ended : (Except Interruption RunResult × FileTree) × Session) :
    List (String × Outcome) :=
  match ended.1.1 with
  | .ok report => report.outcomes
  | .error _ => []

/-- A run whose list is not empty ended with a report. -/
theorem exists_report_of_listed {ended : (Except Interruption RunResult × FileTree) × Session}
    (h : Run.listed ended ≠ []) : ∃ report after final, ended = ((.ok report, after), final) ∧
      report.outcomes = Run.listed ended := by
  obtain ⟨⟨result, after⟩, final⟩ := ended
  cases result with
  | error interruption => exact absurd rfl h
  | ok report => exact ⟨report, after, final, rfl, rfl⟩

/-- Settings without questions before the writing. -/
def silent : Settings where
  assumeYes := true

/-- Settings whose output directory goes up again. -/
def detour : Settings where
  outputDirectory := ⟨"", ["x", ".."]⟩

/-- A tree with an empty registry, and with a directory in the way of the second file. -/
def editedTree : FileTree where
  entries := [("lib", .directory [("core", .directory [("network", .directory [
    ("api_constants.dart", .file ByteArray.empty), ("dio_client.dart", .directory [])])])])]

/-- A run into an empty tree. -/
def usersRun : (Except Interruption RunResult × FileTree) × Session :=
  (generateLayers silent (.text "{}") "http://h/users" "GET").run {} { unread := [] }

theorem parse_get : HttpMethod.parse? "GET" = some .get := by
  decide +kernel

/-- An approved run with an empty sample is prepared if its endpoint is described. -/
theorem empty_ready {endpoint : String} {described : Session} {rest : List String}
    (hdescribed : (describeFeature settings endpoint .get).run session = (.ok feature, described))
    (happroved : settings.approval described.unread = (true, rest)) :
    ∃ artifacts asked, (prepare settings (.text "{}") endpoint "GET").run session =
      (.ok (.ready feature artifacts), asked) ∧ asked.unread = rest := by
  have hsample : parseSample "{}" = .ok ⟨[], false⟩ := by rfl
  exact exists_ready parse_get hdescribed hsample happroved

/-- A run without questions succeeds where it has room. -/
theorem silent_succeeds {endpoint : String} {feature : Feature} {before : FileTree}
    (hdescribed : (describeFeature silent endpoint .get).run { unread := [] } =
      (.ok feature, { unread := [] })) (hfree : before.LinkFree)
    (hroom : HasRoom before silent.outputDirectory (plannedPaths feature.name)) :
    ∃ artifacts asked report after final,
      (prepare silent (.text "{}") endpoint "GET").run { unread := [] } =
          (.ok (.ready feature artifacts), asked) ∧
        (generateLayers silent (.text "{}") endpoint "GET").run before { unread := [] } =
          ((.ok report, after), final) ∧ report.success = true ∧
        FileTree.MakesWays ((plannedPaths feature.name).map
          (before.siteBelow silent.outputDirectory)) before after := by
  obtain ⟨artifacts, asked, hready, hunread⟩ := empty_ready hdescribed rfl
  obtain ⟨report, after, final, hrun, hsuccess, hways⟩ :=
    generateLayers_of_hasRoom rfl rfl hready hunread hfree hroom fun path hpath _ =>
      bracket_notMem_planned (by decide) (by decide) (ready_paths hready).1 hpath
  exact ⟨artifacts, asked, report, after, final, hready, hrun, hsuccess, hways⟩

theorem users_described : (describeFeature silent "http://h/users" .get).run { unread := [] } =
    (.ok ⟨"users", "Users", "/users", .get, some "http://h", ""⟩, { unread := [] }) := by
  rfl

theorem silent_outputDirectory : silent.outputDirectory = ⟨"", ["generated"]⟩ := by
  rfl

set_option maxRecDepth 100000 in
/-- There is room for the users wherever the output directory is missing. -/
theorem users_room {tree : FileTree} (hhome : tree.look tree.home = some .directory)
    (hmissing : tree.look (tree.home ++ ["generated"]) = none) :
    HasRoom tree silent.outputDirectory (plannedPaths "users") := by
  rw [silent_outputDirectory]
  refine hasRoom_of_missing (by decide) hhome (by decide +kernel) fun first hfirst => ?_
  cases hfirst
  exact hmissing

/-- A run into an empty tree succeeds. -/
theorem usersRun_succeeds : ∃ artifacts asked report after final,
    (prepare silent (.text "{}") "http://h/users" "GET").run { unread := [] } =
        (.ok (.ready ⟨"users", "Users", "/users", .get, some "http://h", ""⟩ artifacts), asked) ∧
      usersRun = ((.ok report, after), final) ∧ report.success = true ∧
      FileTree.MakesWays ((plannedPaths "users").map
        (FileTree.siteBelow {} silent.outputDirectory)) {} after :=
  silent_succeeds users_described (FileTree.linkFree_of_holdsLink rfl) (users_room rfl rfl)

theorem length_listed_usersRun : (Run.listed usersRun).length = 15 := by
  obtain ⟨artifacts, asked, report, after, final, hready, hrun, hsuccess, -⟩ := usersRun_succeeds
  have hlisted := (generateLayers_listed hready (FileTree.linkFree_of_holdsLink rfl) hrun).1 hsuccess
  have hlength := congrArg List.length hlisted
  rw [List.length_map] at hlength
  rw [hrun]
  exact hlength

/-- The path of the second file of every plan, the client. -/
def clientPath : String := "lib/core/network/dio_client.dart"

set_option maxRecDepth 100000 in
/-- In the edited tree the registry is created and the client stops the writing, whatever their
contents are. -/
theorem write_detour (content other : String) (rest : List (String × String)) (session : Session) :
    ∃ path refusal after final, writeAllMerged (Run.overwritePolicy detour) detour.outputDirectory
      ((registryPath, content) :: (clientPath, other) :: rest) editedTree session =
        (⟨[(registryPath, .created)], some (.refused path refusal)⟩, after, final) :=
  ⟨_, _, _, _, rfl⟩

theorem listed_detour : Run.listed ((generateLayers detour (.text "{}") "http://h/users" "GET").run
    editedTree { unread := ["y"] }) = [(registryPath, .created)] := by
  have hdescribed : (describeFeature detour "http://h/users" .get).run { unread := ["y"] } =
      (.ok ⟨"users", "Users", "/users", .get, some "http://h", ""⟩, { unread := ["y"] }) := by
    rfl
  have happroved : detour.approval ["y"] = (true, []) := by rfl
  obtain ⟨artifacts, asked, hready, -⟩ := empty_ready hdescribed happroved
  have hpaths : (Run.files artifacts).map Prod.fst = plannedPaths "users" :=
    (files_paths artifacts).trans (ready_paths hready).2
  obtain ⟨⟨first, content⟩, others, hfiles, hfirst, hothers⟩ := List.map_eq_cons_iff.1 hpaths
  obtain ⟨⟨second, other⟩, rest, rfl, hsecond, -⟩ := List.map_eq_cons_iff.1 hothers
  obtain rfl : first = registryPath := hfirst
  obtain rfl : second = clientPath := hsecond
  obtain ⟨path, refusal, after, final, hwrite⟩ := write_detour content other rest asked
  rw [generateLayers_eq, hready]
  dsimp only
  rw [commit_eq, hfiles, hwrite]
  rfl

/-! ## Faithful runs -/

/-- **A run is faithful exactly if it did not overlook the registry.** It cannot have, if the parts of
the output directory lead through directories that are there or end at a missing one. -/
theorem generateLayers_faithful_iff (hfree : before.LinkFree)
    (hready : (prepare settings source endpoint method).run session =
      (.ok (.ready feature artifacts), asked))
    (hrun : (generateLayers settings source endpoint method).run before session =
      ((.ok report, after), final)) :
    Faithful settings feature artifacts before after asked final report ↔
      (report.outcomes ≠ [] →
        ¬ Overlooked before (settings.outputDirectory.join (PathName.ofString registryPath))) := by
  rw [← generateLayers_reported_iff hready hfree hrun]
  obtain ⟨hcomplete, hstopped, hothers⟩ := generateLayers_listed hready hfree hrun
  exact ⟨fun h => h.reported, fun h => ⟨hcomplete, hstopped, h, hothers⟩⟩

/-- Into an empty tree a run writes all files, and says so. -/
theorem silent_run_faithful : ∃ feature artifacts asked report after final,
    (prepare silent (.text "{}") "http://h/users" "GET").run { unread := [] } =
        (.ok (.ready feature artifacts), asked) ∧
      (generateLayers silent (.text "{}") "http://h/users" "GET").run {} { unread := [] } =
        ((.ok report, after), final) ∧
      report.outcomes.length = 15 ∧
      Faithful silent feature artifacts {} after asked final report := by
  have hlength := length_listed_usersRun
  obtain ⟨report, after, final, hrun, hlisted⟩ := exists_report_of_listed
    (fun hnil => by rw [hnil] at hlength; cases hlength)
  rw [← hlisted] at hlength
  have hsome : report.outcomes ≠ [] := fun hnil => by rw [hnil] at hlength; cases hlength
  obtain ⟨feature, artifacts, asked, hready⟩ := ready_of_outcomes hrun hsome
  have hfree : FileTree.LinkFree {} := FileTree.linkFree_of_holdsLink rfl
  refine ⟨feature, artifacts, asked, report, after, final, hready, hrun, hlength, ?_⟩
  refine (generateLayers_faithful_iff hfree hready hrun).2 fun _ hover => ?_
  obtain ⟨bytes, hbytes⟩ := hover.2
  have hnone : FileTree.fileAt {} (FileTree.siteOf {} (silent.outputDirectory.join
      (PathName.ofString registryPath))) = none := by rfl
  rw [hnone] at hbytes
  cases hbytes

/-- A run on a detour replaces the registry without a question and says that it was created. -/
theorem detour_run_not_faithful : ∃ feature artifacts asked report after final,
    editedTree.LinkFree ∧
      (prepare detour (.text "{}") "http://h/users" "GET").run { unread := ["y"] } =
        (.ok (.ready feature artifacts), asked) ∧
      (generateLayers detour (.text "{}") "http://h/users" "GET").run editedTree
          { unread := ["y"] } = ((.ok report, after), final) ∧
      ¬ Faithful detour feature artifacts editedTree after asked final report := by
  obtain ⟨report, after, final, hrun, hlisted⟩ := exists_report_of_listed
    (fun hnil => List.cons_ne_nil _ _ (listed_detour.symm.trans hnil))
  have hsome : report.outcomes ≠ [] := by
    rw [hlisted, listed_detour]
    exact List.cons_ne_nil _ _
  obtain ⟨feature, artifacts, asked, hready⟩ := ready_of_outcomes hrun hsome
  have hfree : editedTree.LinkFree := FileTree.linkFree_of_holdsLink rfl
  refine ⟨feature, artifacts, asked, report, after, final, hfree, hready, hrun, fun hfaithful => ?_⟩
  refine (generateLayers_reported_iff hready hfree hrun).1 hfaithful.reported hsome ⟨?_, ?_⟩
  · decide +kernel
  · exact ⟨ByteArray.empty, rfl⟩

end DartLayers
