import DartLayers.Proofs.Run.Contents
import DartLayers.Proofs.Run.Silence

/-!
# DartLayers — the registry over several runs

The features of a project share one registry, but each run plans it afresh with the constant of its
own endpoint. Which constants are declared after several runs depends on the run that was the last to
write the registry, and which constants are needed on the runs that were the last to write the data
sources. Replacing the registry loses the constants of the other features, and keeping it leaves out
that of the current one.

* **`Succession`** — successful runs into one output directory, from nothing.
* **`lastWriter`** — the feature whose run was the last one to write a file.
* **`Account`** — what the tree holds by the reports of the runs; every run preserves it.
* **`succession_covers_iff`** — the registry covers the data sources exactly if the last writers agree
  on their constants.
-/

namespace DartLayers

/-! ## Successions of runs -/

/-- Successful runs into one output directory, by their reports, the last one first. No file is there
in the beginning, and nothing else changes the tree. -/
inductive Succession (output : PathName) : FileTree → List RunResult → Prop where
  | start {tree : FileTree} (hfree : tree.LinkFree)
      (hempty : ∀ names, tree.fileAt (tree.siteOf output ++ names) = none) :
      Succession output tree []
  | run {before after : FileTree} {history : List RunResult} {settings : Settings}
      {source : SampleSource} {endpoint method : String} {session final : Session}
      {report : RunResult} (hearlier : Succession output before history)
      (hrun : (generateLayers settings source endpoint method).run before session =
        ((.ok report, after), final))
      (houtput : settings.outputDirectory = output) (hsuccess : report.success = true) :
      Succession output after (report :: history)

/-- The feature whose run was the last one to write a file. -/
def lastWriter (path : String) : List RunResult → Option Feature
  | [] => none
  | report :: earlier =>
    if (report.outcomes.lookup path).any Outcome.writes then report.feature
    else lastWriter path earlier

/-- A location that is called like a data source. -/
def IsDataSource (location : Location) : Prop :=
  ∃ front name, location = front ++ [name ++ "_remote_data_source.dart"]

/-- All that the data sources below an output directory refer to is declared in the registry. -/
def RegistryCovers (tree : FileTree) (output : PathName) : Prop :=
  ∀ location bytes, IsDataSource location →
    tree.fileAt (tree.siteOf output ++ location) = some bytes →
      ∃ text registry, bytes = text.toUTF8 ∧
        tree.fileAt (tree.siteBelow output registryPath) = some registry.toUTF8 ∧
        ∀ constant ∈ Dart.references text, constant ∈ Dart.declarations registry

/-- The last writer of each data source has the constant of the last writer of the registry, or that
of the base address. -/
def WritersAgree (history : List RunResult) : Prop :=
  ∀ feature, lastWriter (dataSourcePath feature.name) history = some feature →
    ∃ keeper, lastWriter registryPath history = some keeper ∧
      (feature.endpointConstant = "apiBaseUrl" ∨
        feature.endpointConstant = keeper.endpointConstant)

/-! ## Accounts -/

/-- A file is what its last writer made of it, and it is not there if nobody has written it. -/
def WrittenBy (tree : FileTree) (output : PathName) (history : List RunResult) (path : String)
    (tells : Feature → String → Prop) : Prop :=
  match lastWriter path history with
  | none => tree.fileAt (tree.siteBelow output path) = none
  | some feature => ∃ text, tree.fileAt (tree.siteBelow output path) = some text.toUTF8 ∧
      tells feature text

/-- What the tree holds by the reports of the runs. -/
structure Account (output : PathName) (tree : FileTree) (history : List RunResult) : Prop where
  linkFree : tree.LinkFree
  words : ∀ report ∈ history, ∀ feature, report.feature = some feature → IsWord feature.name
  planned : ∀ location bytes, IsDataSource location →
    tree.fileAt (tree.siteOf output ++ location) = some bytes →
      ∃ name, IsWord name ∧ location = dataSourceParts name
  registry : WrittenBy tree output history registryPath fun feature text =>
    Dart.declarations text = ["apiBaseUrl", feature.endpointConstant]
  dataSources : ∀ name, IsWord name →
    WrittenBy tree output history (dataSourcePath name) fun feature text =>
      feature.name = name ∧ Dart.references text = [feature.endpointConstant]

variable {settings : Settings} {source : SampleSource} {endpoint method : String}
  {feature : Feature} {artifacts : List Artifact} {before after : FileTree}
  {session asked final : Session} {report : RunResult} {output : PathName}
  {history : List RunResult}

/-- What is read in two ways is a planned path in one. -/
theorem planned_siteBelow {name : String} (hname : IsWord name) {parts : List String}
    (hparts : parts ∈ plannedParts name) (tree : FileTree) (output : PathName) :
    tree.siteBelow output ("/".intercalate parts) = tree.siteOf output ++ parts := by
  rw [((planned_apart hname).1 _ (List.mem_map_of_mem hparts)).siteBelow_eq,
    pathParts_planned hname hparts]

/-- A file that is planned for one feature is in the plan of another one if its site is. -/
theorem planned_of_site {name other : String} (hname : IsWord name) (hother : IsWord other)
    {parts : List String} (hparts : parts ∈ plannedParts name) {tree : FileTree}
    {output : PathName} {path : String} (hpath : path ∈ plannedPaths other)
    (hsite : tree.siteBelow output path = tree.siteBelow output ("/".intercalate parts)) :
    parts ∈ plannedParts other := by
  obtain ⟨found, hfound, rfl⟩ := List.mem_map.1 hpath
  rw [planned_siteBelow hother hfound, planned_siteBelow hname hparts] at hsite
  rwa [← List.append_cancel_left hsite]

/-- A successful run was prepared. -/
theorem ready_of_success
    (hrun : (generateLayers settings source endpoint method).run before session =
      ((.ok report, after), final)) (hsuccess : report.success = true) :
    ∃ feature artifacts asked, (prepare settings source endpoint method).run session =
      (.ok (.ready feature artifacts), asked) :=
  (ready_or_idle hrun).resolve_right fun hidle => by
    rw [hsuccess] at hidle
    cases hidle.1

/-- The last characters of the last part. -/
def lastChars (parts : List String) : List Char :=
  (parts.getLast?.getD "").toList.reverse.take 8

/-- Of the planned files only the data source is called like one. -/
theorem eq_dataSourceParts {name : String} {parts : List String} (hparts : parts ∈ plannedParts name)
    (h : IsDataSource parts) : parts = dataSourceParts name := by
  obtain ⟨front, other, hother⟩ := h
  have hlast : lastChars parts = "rce.dart".toList.reverse := by
    rw [hother, lastChars]
    simp
  have hcore : ∀ parts ∈ coreParts, lastChars parts ≠ "rce.dart".toList.reverse := by
    decide +kernel
  rcases List.mem_append.1 hparts with hfixed | hfeature
  · exact absurd hlast (hcore parts hfixed)
  · simp only [featureParts, List.mem_cons, List.not_mem_nil, or_false] at hfeature
    rcases hfeature with rfl | rfl | rfl | rfl | rfl | hsource | rfl
    rotate_left 5
    · exact hsource
    all_goals simp [lastChars] at hlast

section

variable (hready : (prepare settings source endpoint method).run session =
  (.ok (.ready feature artifacts), asked)) (hfree : before.LinkFree)
  (hrun : (generateLayers settings source endpoint method).run before session =
    ((.ok report, after), final)) (houtput : settings.outputDirectory = output)
  (hsuccess : report.success = true)

include hready hfree hrun houtput hsuccess

/-- A file that a successful run does not list is not in its plan, and is left alone. -/
theorem fileAt_of_unlisted {name : String} (hname : IsWord name) {path : String}
    (hpath : path ∈ plannedPaths name) (hlookup : report.outcomes.lookup path = none) :
    after.fileAt (before.siteBelow output path) = before.fileAt (before.siteBelow output path) := by
  subst houtput
  obtain ⟨hword, -⟩ := ready_paths hready
  obtain ⟨hlisted, -, hothers⟩ := generateLayers_listed hready hfree hrun
  refine hothers _ (fun hmem => ?_) (manifestSites_disjoint hname settings before hpath)
  rw [hlisted hsuccess] at hmem
  obtain ⟨other, hother, hsite⟩ := List.mem_map.1 hmem
  obtain ⟨parts, hparts, rfl⟩ := List.mem_map.1 hpath
  have hplanned := planned_of_site hname hword hparts hother hsite
  have hlistedPath : "/".intercalate parts ∈ report.outcomes.map Prod.fst := by
    rw [hlisted hsuccess]
    exact List.mem_map_of_mem hplanned
  obtain ⟨entry, hentry, hsame⟩ := List.mem_map.1 hlistedPath
  have hother := List.lookup_eq_none_iff.1 hlookup entry hentry
  rw [hsame] at hother
  simp at hother

/-- **A run preserves what is known of a file**, if what it would write there is right. -/
theorem writtenBy_run {name : String} (hname : IsWord name) {path : String}
    (hpath : path ∈ plannedPaths name) {tells : Feature → String → Prop}
    (hbefore : WrittenBy before output history path tells)
    (htells : ∀ content, (path, content) ∈ Run.files artifacts → tells feature content) :
    WrittenBy after output (report :: history) path tells := by
  have hgrows := generateLayers_grows hready hfree hrun
  obtain ⟨-, -, -, -, -, hfeature, -⟩ := generateLayers_written hready hfree hrun
  rw [WrittenBy, lastWriter, hgrows.siteBelow output]
  cases hlookup : report.outcomes.lookup path with
  | none =>
    rw [fileAt_of_unlisted hready hfree hrun houtput hsuccess hname hpath hlookup]
    exact hbefore
  | some outcome =>
    subst houtput
    obtain ⟨front, back, hentry, -⟩ := List.lookup_eq_some_iff.1 hlookup
    have hmem : (path, outcome) ∈ report.outcomes := by simp [hentry]
    obtain ⟨content, hfile, hbytes, -⟩ := generateLayers_fileAt hready hfree hrun hmem
    rw [hbytes, Outcome.bytes?]
    cases hwrites : outcome.writes with
    | true =>
      simp only [Option.any_some, hwrites, if_true, hfeature]
      exact ⟨content, rfl, htells content hfile⟩
    | false =>
      simp only [Option.any_some, hwrites, Bool.false_eq_true, if_false]
      exact hbefore

/-- All planned files are there after a successful run. -/
theorem fileAt_of_planned {path : String} (hpath : path ∈ plannedPaths feature.name) :
    after.fileAt (after.siteBelow output path) ≠ none := by
  subst houtput
  obtain ⟨hlisted, -⟩ := generateLayers_listed hready hfree hrun
  rw [← hlisted hsuccess] at hpath
  obtain ⟨⟨name, outcome⟩, hentry, rfl⟩ := List.mem_map.1 hpath
  obtain ⟨-, -, -, hthere⟩ := generateLayers_fileAt hready hfree hrun hentry
  rwa [(generateLayers_grows hready hfree hrun).siteBelow settings.outputDirectory]

/-- **A successful run preserves the account.** -/
theorem account_run (h : Account output before history) :
    Account output after (report :: history) where
  linkFree := (generateLayers_grows hready hfree hrun).linkFree hfree
  words found hfound writer hwriter := by
    obtain ⟨-, -, -, -, -, hfeature, -⟩ := generateLayers_written hready hfree hrun
    rcases List.mem_cons.1 hfound with rfl | hearlier
    · cases hfeature.symm.trans hwriter
      exact (ready_paths hready).1
    · exact h.words found hearlier writer hwriter
  planned location bytes hsource hbytes := by
    have hgrows := generateLayers_grows hready hfree hrun
    obtain ⟨hword, -⟩ := ready_paths hready
    obtain ⟨hlisted, -, -⟩ := generateLayers_listed hready hfree hrun
    rw [hgrows.siteOf] at hbytes
    by_cases hwritten : before.siteOf output ++ location ∈
        Run.sites settings before (report.outcomes.map Prod.fst) ++ Run.manifestSites settings before
    · rcases List.mem_append.1 hwritten with hlist | hmanifest
      · rw [Run.sites, hlisted hsuccess, houtput] at hlist
        obtain ⟨path, hpath, hsite⟩ := List.mem_map.1 hlist
        obtain ⟨parts, hparts, rfl⟩ := List.mem_map.1 hpath
        rw [planned_siteBelow hword hparts] at hsite
        rw [← List.append_cancel_left hsite] at hsource ⊢
        exact ⟨feature.name, hword, eq_dataSourceParts hparts hsource⟩
      · -- The manifest is not called like a data source.
        obtain ⟨front, hfront⟩ := exists_of_mem_manifestSites hmanifest
        obtain ⟨directories, name, rfl⟩ := hsource
        rw [← List.append_assoc] at hfront
        have hlast := congrArg lastChars hfront
        simp [lastChars, manifestName] at hlast
    · rw [hgrows.files _ hwritten] at hbytes
      exact h.planned location bytes hsource hbytes
  registry := by
    obtain ⟨hword, -⟩ := ready_paths hready
    refine writtenBy_run hready hfree hrun houtput hsuccess hword (registryPath_mem _) h.registry
      fun content hfile => ready_registry hready hfile
  dataSources name hname := by
    refine writtenBy_run hready hfree hrun houtput hsuccess hname (dataSourcePath_mem name)
      (h.dataSources name hname) fun content hfile => ?_
    -- Only the plan of its own feature has the data source.
    obtain ⟨hword, hpaths⟩ := ready_paths hready
    have hpath : dataSourcePath name ∈ plannedPaths feature.name := by
      rw [← hpaths, ← files_paths]
      exact List.mem_map_of_mem hfile
    have hsame := eq_of_dataSourceParts_mem
      (planned_of_site hname hword (dataSourceParts_mem name) hpath (rfl : before.siteBelow output _ = _))
    subst hsame
    exact ⟨rfl, ready_dataSource hready hfile⟩

end

/-- Nothing is written before the first run. -/
theorem writtenBy_start {tree : FileTree}
    (hempty : ∀ names, tree.fileAt (tree.siteOf output ++ names) = none) {name : String}
    (hname : IsWord name) {path : String} (hpath : path ∈ plannedPaths name)
    (tells : Feature → String → Prop) : WrittenBy tree output [] path tells := by
  obtain ⟨parts, hparts, rfl⟩ := List.mem_map.1 hpath
  rw [WrittenBy, lastWriter, planned_siteBelow hname hparts]
  exact hempty parts

/-- **The account is right after any succession of runs.** -/
theorem succession_account {tree : FileTree} (h : Succession output tree history) :
    Account output tree history := by
  induction h with
  | start hfree hempty =>
    refine ⟨hfree, fun report hreport => ?_, fun location bytes hsource hbytes => ?_, ?_, ?_⟩
    · cases hreport
    · rw [hempty] at hbytes
      cases hbytes
    · exact writtenBy_start hempty (featureName_isWord "") (registryPath_mem _) _
    · exact fun name hname => writtenBy_start hempty hname (dataSourcePath_mem name) _
  | run hearlier hrun houtput hsuccess ih =>
    obtain ⟨feature, artifacts, asked, hready⟩ := ready_of_success hrun hsuccess
    exact account_run hready ih.linkFree hrun houtput hsuccess ih

/-- A last writer had a run. -/
theorem exists_report_of_lastWriter {path : String} {writer : Feature}
    (h : lastWriter path history = some writer) :
    ∃ report ∈ history, report.feature = some writer := by
  induction history with
  | nil => cases h
  | cons report earlier ih =>
    rw [lastWriter] at h
    split at h
    · exact ⟨report, List.mem_cons_self, h⟩
    · obtain ⟨found, hfound, hfeature⟩ := ih h
      exact ⟨found, List.mem_cons_of_mem _ hfound, hfeature⟩

/-- A file that has been written has a last writer from then on. -/
theorem lastWriter_cons_ne_none {path : String} (hreport : report.feature ≠ none)
    (h : lastWriter path history ≠ none) : lastWriter path (report :: history) ≠ none := by
  rw [lastWriter]
  split
  · exact hreport
  · exact h

/-- A file that is there was written by somebody. -/
theorem WrittenBy.lastWriter_ne_none {tree : FileTree} {path : String}
    {tells : Feature → String → Prop} (h : WrittenBy tree output history path tells)
    (hthere : tree.fileAt (tree.siteBelow output path) ≠ none) :
    lastWriter path history ≠ none := by
  intro hnone
  rw [WrittenBy, hnone] at h
  exact hthere h

/-- Registry and data source of each feature that had a run have a last writer. -/
theorem lastWriter_ne_none {tree : FileTree} (h : Succession output tree history)
    (hreport : report ∈ history) (hfeature : report.feature = some feature) :
    lastWriter registryPath history ≠ none ∧
      lastWriter (dataSourcePath feature.name) history ≠ none := by
  induction h with
  | start => cases hreport
  | run hearlier hrun houtput hsuccess ih =>
    obtain ⟨found, artifacts, asked, hready⟩ := ready_of_success hrun hsuccess
    have hfree := (succession_account hearlier).linkFree
    obtain ⟨-, -, -, -, -, hfound, -⟩ := generateLayers_written hready hfree hrun
    rcases List.mem_cons.1 hreport with rfl | hmem
    · cases hfound.symm.trans hfeature
      have haccount :=
        account_run hready hfree hrun houtput hsuccess (succession_account hearlier)
      have hword := (ready_paths hready).1
      exact ⟨haccount.registry.lastWriter_ne_none
          (fileAt_of_planned hready hfree hrun houtput hsuccess (registryPath_mem _)),
        (haccount.dataSources _ hword).lastWriter_ne_none
          (fileAt_of_planned hready hfree hrun houtput hsuccess (dataSourcePath_mem _))⟩
    · have hsome := Option.ne_none_iff_exists'.2 ⟨_, hfound⟩
      obtain ⟨hregistry, hsource⟩ := ih hmem
      exact ⟨lastWriter_cons_ne_none hsome hregistry, lastWriter_cons_ne_none hsome hsource⟩

/-! ## What the registry covers -/

section

variable {tree : FileTree} (h : Account output tree history)

include h

/-- The registry that is there declares the constant of its last writer. -/
theorem exists_keeper {registry : String}
    (hregistry : tree.fileAt (tree.siteBelow output registryPath) = some registry.toUTF8) :
    ∃ keeper, lastWriter registryPath history = some keeper ∧
      Dart.declarations registry = ["apiBaseUrl", keeper.endpointConstant] := by
  have hwritten := h.registry
  rw [WrittenBy, hregistry] at hwritten
  cases hkeeper : lastWriter registryPath history with
  | none =>
    rw [hkeeper] at hwritten
    cases hwritten
  | some keeper =>
    rw [hkeeper] at hwritten
    obtain ⟨text, htext, hdeclares⟩ := hwritten
    have hsame : registry = text := String.toByteArray_inj.1 (Option.some.inj htext)
    exact ⟨keeper, rfl, hsame ▸ hdeclares⟩

/-- A data source is written for the feature that it is named after. -/
theorem name_of_lastWriter {name : String} (hname : IsWord name) {writer : Feature}
    (hwriter : lastWriter (dataSourcePath name) history = some writer) : writer.name = name := by
  have hwritten := h.dataSources name hname
  rw [WrittenBy, hwriter] at hwritten
  obtain ⟨text, -, hsame, -⟩ := hwritten
  exact hsame

/-- The data source of a feature that was the last to write it refers to its constant. -/
theorem exists_dataSource {feature : Feature}
    (hwriter : lastWriter (dataSourcePath feature.name) history = some feature) :
    ∃ text, tree.fileAt (tree.siteOf output ++ dataSourceParts feature.name) =
        some text.toUTF8 ∧ Dart.references text = [feature.endpointConstant] := by
  obtain ⟨report, hreport, hfeature⟩ := exists_report_of_lastWriter hwriter
  have hword := h.words report hreport feature hfeature
  have hwritten := h.dataSources feature.name hword
  rw [WrittenBy, hwriter] at hwritten
  obtain ⟨text, htext, -, hrefers⟩ := hwritten
  refine ⟨text, ?_, hrefers⟩
  rw [← planned_siteBelow hword (dataSourceParts_mem feature.name)]
  exact htext

/-- A data source that is there was written for its feature. -/
theorem exists_writer {location : Location} {bytes : ByteArray} (hsource : IsDataSource location)
    (hbytes : tree.fileAt (tree.siteOf output ++ location) = some bytes) :
    ∃ feature text, lastWriter (dataSourcePath feature.name) history = some feature ∧
      bytes = text.toUTF8 ∧ Dart.references text = [feature.endpointConstant] := by
  obtain ⟨name, hword, rfl⟩ := h.planned location bytes hsource hbytes
  have hwritten := h.dataSources name hword
  have hsite : tree.siteBelow output (dataSourcePath name) =
      tree.siteOf output ++ dataSourceParts name :=
    planned_siteBelow hword (dataSourceParts_mem name) tree output
  rw [WrittenBy, hsite, hbytes] at hwritten
  cases hwriter : lastWriter (dataSourcePath name) history with
  | none =>
    rw [hwriter] at hwritten
    cases hwritten
  | some feature =>
    rw [hwriter] at hwritten
    obtain ⟨text, htext, rfl, hrefers⟩ := hwritten
    exact ⟨feature, text, hwriter, Option.some.inj htext, hrefers⟩

/-- By a right account the registry covers the data sources if the last writers agree, and only
then. -/
theorem Account.covers_iff : RegistryCovers tree output ↔ WritersAgree history := by
  constructor
  · intro hcovers feature hwriter
    obtain ⟨text, hbytes, hrefers⟩ := exists_dataSource h hwriter
    obtain ⟨found, registry, hfound, hregistry, hdeclared⟩ := hcovers _ _
      ⟨["lib", "feature", feature.name, "data", "datasources"], feature.name, rfl⟩ hbytes
    obtain ⟨keeper, hkeeper, hdeclares⟩ := exists_keeper h hregistry
    have hsame : text = found := String.toByteArray_inj.1 hfound
    have hmem := hdeclared feature.endpointConstant (by simp [← hsame, hrefers])
    rw [hdeclares] at hmem
    exact ⟨keeper, hkeeper, by simpa using hmem⟩
  · intro hagree location bytes hsource hbytes
    obtain ⟨feature, text, hwriter, htext, hrefers⟩ := exists_writer h hsource hbytes
    obtain ⟨keeper, hkeeper, hconstant⟩ := hagree feature hwriter
    have hwritten := h.registry
    rw [WrittenBy, hkeeper] at hwritten
    obtain ⟨registry, hregistry, hdeclares⟩ := hwritten
    refine ⟨text, registry, htext, hregistry, ?_⟩
    rw [hrefers, hdeclares]
    simpa using hconstant

end

/-- Runs for one constant agree. -/
theorem writersAgree_of_constant {tree : FileTree} (h : Succession output tree history)
    {constant : String} (hsame : ∀ report ∈ history, ∀ feature, report.feature = some feature →
      feature.endpointConstant = constant) : WritersAgree history := by
  intro feature hwriter
  obtain ⟨report, hreport, hfeature⟩ := exists_report_of_lastWriter hwriter
  obtain ⟨keeper, hkeeper⟩ :=
    Option.ne_none_iff_exists'.1 (lastWriter_ne_none h hreport hfeature).1
  obtain ⟨other, hother, hkept⟩ := exists_report_of_lastWriter hkeeper
  refine ⟨keeper, hkeeper, .inr ?_⟩
  rw [hsame report hreport feature hfeature, hsame other hother keeper hkept]

/-- **Two features with constants of their own are never covered**, however the conflicts about the
registry were settled. -/
theorem not_covers_of_two {tree : FileTree} (h : Succession output tree history)
    {first second : Feature} {report other : RunResult} (hreport : report ∈ history)
    (hother : other ∈ history) (hfirst : report.feature = some first)
    (hsecond : other.feature = some second)
    (hsame : ∀ found ∈ history, ∀ feature, found.feature = some feature →
      (feature.name = first.name → feature.endpointConstant = first.endpointConstant) ∧
        (feature.name = second.name → feature.endpointConstant = second.endpointConstant))
    (hne : first.endpointConstant ≠ second.endpointConstant)
    (hfirstBase : first.endpointConstant ≠ "apiBaseUrl")
    (hsecondBase : second.endpointConstant ≠ "apiBaseUrl") : ¬ RegistryCovers tree output := by
  intro hcovers
  have haccount := succession_account h
  have hagree := haccount.covers_iff.1 hcovers
  -- The registry has one writer at the end, and a constant that is covered is that writer's.
  have hkept : ∀ {found : RunResult} {feature : Feature}, found ∈ history →
      found.feature = some feature → (∀ found ∈ history, ∀ writer, found.feature = some writer →
        writer.name = feature.name → writer.endpointConstant = feature.endpointConstant) →
          feature.endpointConstant ≠ "apiBaseUrl" →
            ∃ keeper, lastWriter registryPath history = some keeper ∧
              feature.endpointConstant = keeper.endpointConstant := by
    intro found feature hfound hfeature hconstant hbase
    obtain ⟨writer, hwriter⟩ :=
      Option.ne_none_iff_exists'.1 (lastWriter_ne_none h hfound hfeature).2
    obtain ⟨run, hrun, hwrote⟩ := exists_report_of_lastWriter hwriter
    have hname := name_of_lastWriter haccount (haccount.words found hfound feature hfeature) hwriter
    rw [← hname] at hwriter
    obtain ⟨keeper, hkeeper, hdeclared⟩ := hagree writer hwriter
    rw [hconstant run hrun writer hwrote hname] at hdeclared
    exact ⟨keeper, hkeeper, hdeclared.resolve_left hbase⟩
  obtain ⟨keeper, hkeeper, hone⟩ := hkept hreport hfirst
    (fun found hfound writer hwriter => (hsame found hfound writer hwriter).1) hfirstBase
  obtain ⟨same, hagain, htwo⟩ := hkept hother hsecond
    (fun found hfound writer hwriter => (hsame found hfound writer hwriter).2) hsecondBase
  cases hkeeper.symm.trans hagain
  exact hne (hone.trans htwo.symm)

/-! ## Two features -/

theorem orders_described : (describeFeature silent "http://h/orders" .get).run { unread := [] } =
    (.ok ⟨"orders", "Orders", "/orders", .get, some "http://h", ""⟩, { unread := [] }) := by
  rfl

set_option maxRecDepth 100000 in
/-- A run for the users leaves room for the orders. -/
theorem orders_room : usersRun.1.2.LinkFree ∧
    HasRoom usersRun.1.2 silent.outputDirectory (plannedPaths "orders") := by
  obtain ⟨artifacts, asked, report, after, final, hready, hrun, hsuccess, hways⟩ := usersRun_succeeds
  have hfree : FileTree.LinkFree {} := FileTree.linkFree_of_holdsLink rfl
  have hbefore : HasRoom {} silent.outputDirectory (plannedPaths "orders") := by
    rw [silent_outputDirectory]
    refine hasRoom_of_missing (by decide) rfl (by decide +kernel) fun first hfirst => ?_
    cases hfirst
    rfl
  have hsites : Run.manifestSites silent {} = [] := rfl
  have hgrows := generateLayers_grows hready hfree hrun
  rw [(generateLayers_listed hready hfree hrun).1 hsuccess, hsites, List.append_nil] at hgrows
  have hafter : usersRun.1.2 = after := by rw [hrun]
  have husers : IsWord "users" := by decide
  have horders : IsWord "orders" := by decide
  rw [hafter]
  exact ⟨hgrows.linkFree hfree, hbefore.of_grows (plannedPaths "users") hfree hgrows hways
    (planned_apart husers).1 (planned_apart horders).1 (planned_offWays husers horders)
    (planned_offWays horders husers)⟩

theorem admitted_orders : Run.admitted silent (.text "{}") "http://h/orders" "GET" usersRun.1.2
    { unread := [] } = true := by
  obtain ⟨artifacts, asked, hready, hunread⟩ := empty_ready orders_described rfl
  obtain ⟨hfree, hroom⟩ := orders_room
  obtain ⟨hname, hpaths⟩ := ready_paths hready
  have hfiles : (Run.files artifacts).map Prod.fst = plannedPaths "orders" :=
    (files_paths artifacts).trans hpaths
  have hadmits : admits silent.outputDirectory (Run.files artifacts) usersRun.1.2 = true :=
    admits_of_hasRoom hfree (hfiles ▸ (planned_apart hname).1) (hfiles ▸ planned_offWays hname hname)
      (hfiles ▸ hroom)
  rw [Run.admitted, hready]
  dsimp only
  rw [hunread, hadmits]
  rfl

/-- A first run for an endpoint. -/
theorem users_succession : ∃ report, Succession silent.outputDirectory usersRun.1.2 [report] ∧
      report.feature = some ⟨"users", "Users", "/users", .get, some "http://h", ""⟩ := by
  obtain ⟨artifacts, asked, report, after, final, hready, hrun, hsuccess, -⟩ := usersRun_succeeds
  have hfree : FileTree.LinkFree {} := FileTree.linkFree_of_holdsLink rfl
  obtain ⟨-, -, -, -, -, hfeature, -⟩ := generateLayers_written hready hfree hrun
  have hafter : usersRun.1.2 = after := by rw [hrun]
  rw [hafter]
  refine ⟨report, .run (.start hfree fun names => ?_) hrun rfl hsuccess, hfeature⟩
  cases names <;> rfl

/-- **The registry covers the data sources exactly if the last writers agree** on their constants. -/
theorem succession_covers_iff {tree : FileTree} (h : Succession output tree history) :
    RegistryCovers tree output ↔ WritersAgree history :=
  (succession_account h).covers_iff

/-- A run alone is covered. -/
theorem users_covered : ∃ tree history, history ≠ [] ∧
    Succession silent.outputDirectory tree history ∧
      RegistryCovers tree silent.outputDirectory := by
  obtain ⟨report, hsuccession, hfeature⟩ := users_succession
  have hconstant : ∀ found ∈ [report], ∀ feature, found.feature = some feature →
      feature.endpointConstant = "users" := by
    intro found hfound feature hsome
    rw [List.mem_singleton.1 hfound, hfeature] at hsome
    cases hsome
    rfl
  exact ⟨usersRun.1.2, [report], List.cons_ne_nil _ _, hsuccession,
    (succession_covers_iff hsuccession).2 (writersAgree_of_constant hsuccession hconstant)⟩

/-- A run for a second feature leaves one of the two data sources without its constant. -/
theorem orders_not_covered : ∃ tree history, Succession silent.outputDirectory tree history ∧
    ¬ RegistryCovers tree silent.outputDirectory := by
  obtain ⟨report, hsuccession, hfeature⟩ := users_succession
  obtain ⟨feature, artifacts, asked, hready, hunread, hadmits⟩ := ready_of_admitted admitted_orders
  obtain ⟨planned, answered, hprepared, -⟩ := empty_ready orders_described rfl
  cases hprepared.symm.trans hready
  obtain ⟨other, after, final, hrun, hsuccess, hother⟩ :=
    generateLayers_of_admits rfl rfl hready (by decide) (by decide) hadmits hunread
  have hboth := hsuccession.run hrun rfl hsuccess
  refine ⟨after, [other, report], hboth, not_covers_of_two hboth (List.mem_cons_of_mem _
    (List.mem_singleton_self report)) List.mem_cons_self hfeature hother ?_ (by decide) (by decide)
    (by decide)⟩
  intro found hfound feature hsome
  rcases List.mem_cons.1 hfound with rfl | hfirst
  · cases hother.symm.trans hsome
    exact ⟨by decide, fun _ => rfl⟩
  · rw [List.mem_singleton.1 hfirst] at hsome
    cases hfeature.symm.trans hsome
    exact ⟨fun _ => rfl, by decide⟩

end DartLayers
