import DartLayers.Proofs.FileTree.Creation
import DartLayers.Proofs.Plan.Safety
import DartLayers.Proofs.Run.Silence

/-!
# DartLayers — runs that find room

A tree has room for the files of a run if nothing obstructs them. A planned file is not on the way to
another one, so that the files do not take each other's room, and neither do those of other features.
Without an operator a run that has room succeeds, and leaves room for the next one.

* **`HasRoom`**, **`HasRoom.of_grows`** — room for files, and trees that grow.
* **`writeAllMerged_of_hasRoom`** — files that have room are written.
* **`generateLayers_of_hasRoom`** — a run that is prepared succeeds if there is room.
-/

namespace DartLayers

/-! ## Room -/

/-- No path of the first list is on the way to a path of the second one. -/
def OffWays (paths others : List String) : Prop :=
  ∀ path ∈ paths, ∀ other ∈ others, ¬ pathParts path <+: (pathParts other).dropLast

/-- Nothing obstructs the files with the given paths below a root. -/
def HasRoom (tree : FileTree) (root : PathName) (paths : List String) : Prop :=
  ∀ path ∈ paths, tree.Unobstructed (root.join (PathName.ofString path))

theorem OffWays.mono {paths others paths' others' : List String} (h : OffWays paths others)
    (hpaths : paths' ⊆ paths) (hothers : others' ⊆ others) : OffWays paths' others' :=
  fun path hpath other hother => h path (hpaths hpath) other (hothers hother)

/-- The files of a plan are on the way to none of any plan. -/
theorem planned_offWays {name other : String} (hname : IsWord name) (hother : IsWord other) :
    OffWays (plannedPaths name) (plannedPaths other) := by
  intro path hpath way hway
  obtain ⟨parts, hparts, rfl⟩ := List.mem_map.1 hpath
  obtain ⟨others, hothers, rfl⟩ := List.mem_map.1 hway
  rw [pathParts_planned hname hparts, pathParts_planned hother hothers]
  exact plannedParts_not_onWay hname hother hparts hothers

section

variable {tree after : FileTree} {root : PathName} {others : List String}

/-- **Files take room only on their ways**: a tree in which others have been written has room still. -/
theorem HasRoom.of_grows (paths : List String) (hfree : tree.LinkFree)
    (hgrows : FileTree.Grows (paths.map (tree.siteBelow root)) tree after)
    (hways : FileTree.MakesWays (paths.map (tree.siteBelow root)) tree after)
    (hpaths : ∀ path ∈ paths, LeadsDown path) (hothers : ∀ path ∈ others, LeadsDown path)
    (hbelow : OffWays paths others) (habove : OffWays others paths)
    (h : HasRoom tree root others) : HasRoom after root others := by
  -- sites below one root are on each other's ways as the paths are
  have hsites : ∀ {path other : String}, LeadsDown path → LeadsDown other →
      ¬ pathParts path <+: (pathParts other).dropLast →
        ¬ tree.siteBelow root path <+: (tree.siteBelow root other).dropLast := by
    intro path other hpath hother hoff hway
    rw [hpath.siteBelow_eq, hother.siteBelow_eq, List.dropLast_append_of_ne_nil hother.2.1,
      List.prefix_append_right_inj] at hway
    exact hoff hway
  intro other hother
  refine FileTree.Unobstructed.of_grows hfree hgrows hways (h other hother) ?_ ?_
  · intro site hsite
    obtain ⟨path, hpath, rfl⟩ := List.mem_map.1 hsite
    exact hsites (hpaths path hpath) (hothers other hother) (hbelow path hpath other hother)
  · intro site hsite
    obtain ⟨path, hpath, rfl⟩ := List.mem_map.1 hsite
    exact hsites (hothers other hother) (hpaths path hpath) (habove other hother path hpath)

/-- There is room for planned files if there is for their parts. -/
theorem hasRoom_planned {name : String} (hname : IsWord name)
    (h : ∀ parts ∈ plannedParts name, tree.Unobstructed ⟨root.root, root.parts ++ parts⟩) :
    HasRoom tree root (plannedPaths name) := by
  intro path hpath
  rw [((planned_apart hname).1 path hpath).join_eq]
  obtain ⟨parts, hparts, rfl⟩ := List.mem_map.1 hpath
  rw [pathParts_planned hname hparts]
  exact h parts hparts

/-- There is room for planned files if the way to all of them is missing from its first part on. -/
theorem hasRoom_of_missing {name : String} (hname : IsWord name)
    (hhome : tree.look tree.home = some .directory)
    (hplanned : ∀ parts ∈ plannedParts name, FileTree.Accepted ⟨root.root, root.parts ++ parts⟩ ∧
      FileTree.AreNames (root.parts ++ parts))
    (hmissing : ∀ first ∈ (root.parts ++ ["lib"]).head?,
      tree.look (tree.startOf root ++ [first]) = none) :
    HasRoom tree root (plannedPaths name) := by
  refine hasRoom_planned hname fun parts hparts => ?_
  obtain ⟨haccepted, hnames⟩ := hplanned parts hparts
  obtain ⟨file, -, rfl⟩ := plannedParts_eq_lib parts hparts
  cases hroot : root.parts with
  | nil =>
    rw [hroot] at haccepted hnames hmissing
    exact .of_missing hhome haccepted hnames rfl (hmissing "lib" rfl)
  | cons first rest =>
    rw [hroot] at haccepted hnames hmissing
    exact .of_missing hhome haccepted hnames rfl (hmissing first rfl)

end

/-! ## Files that have room -/

section

variable {settings : Settings} {root path : PathName} {tree : FileTree} {session : Session}
  {content : String} {files : List (String × String)}

/-- A file that nothing obstructs is there and can be read, or can be created. -/
theorem FileTree.Unobstructed.cases (hfree : tree.LinkFree) (h : tree.Unobstructed path)
    (content : String) :
    (tree.fileAt (tree.siteOf path) ≠ none ∧ tree.isPresent path = .ok true ∧
        (tree.readBytes path).isOk = true) ∨
      tree.isPresent path = .ok false ∧ ∃ after, tree.createText path content = (after, none) ∧
        FileTree.Grows [tree.siteOf path] tree after ∧
          FileTree.MakesWays [tree.siteOf path] tree after := by
  cases hkind : tree.look (tree.siteOf path) with
  | some kind =>
    obtain ⟨hpresent, bytes, hread⟩ := h.exists_readBytes hfree hkind
    have hbytes := FileTree.readBytes_eq_ok hfree hread
    exact .inl ⟨by rw [hbytes]; exact Option.some_ne_none bytes, hpresent, by rw [hread]; rfl⟩
  | none =>
    obtain ⟨after, hcreate⟩ := h.exists_createText hfree content
    have hgrows := FileTree.grows_createText hfree h.namesFile content
    have hways := h.makesWays_createText hfree content
    rw [hcreate] at hgrows hways
    exact .inr ⟨h.isPresent_of_none hfree hkind, after, hcreate, hgrows, hways⟩

/-- Files that have room can be dealt with one after the other. -/
theorem admits_of_hasRoom (hfree : tree.LinkFree)
    (hdown : ∀ path ∈ files.map Prod.fst, LeadsDown path)
    (hoff : OffWays (files.map Prod.fst) (files.map Prod.fst))
    (hroom : HasRoom tree root (files.map Prod.fst)) : admits root files tree = true := by
  induction files generalizing tree with
  | nil => rfl
  | cons file rest ih =>
    obtain ⟨path, content⟩ := file
    have htail : rest.map Prod.fst ⊆ ((path, content) :: rest).map Prod.fst :=
      List.subset_cons_self _ _
    have hothers := fun other hother => hdown other (htail hother)
    have hrest : HasRoom tree root (rest.map Prod.fst) := fun other hother =>
      hroom other (htail hother)
    unfold admits
    rcases (hroom path List.mem_cons_self).cases hfree content with
      ⟨-, hpresent, hread⟩ | ⟨habsent, after, hcreate, hgrows, hways⟩
    · rw [hpresent]
      dsimp only
      rw [hread, ih hfree hothers (hoff.mono htail htail) hrest]
      rfl
    · rw [habsent]
      dsimp only
      rw [hcreate]
      refine ih (hgrows.linkFree hfree) hothers (hoff.mono htail htail) ?_
      exact hrest.of_grows [path] hfree hgrows hways (by simpa using hdown path) hothers
        (hoff.mono (by simp) htail) (hoff.mono htail (by simp))

/-- **Files that have room are written**, without an operator, if no question about one that is there
has a bracket. The directories that are made are on the ways to them. -/
theorem writeAllMerged_of_hasRoom (hasks : settings.overwriteAll = false) (hfree : tree.LinkFree)
    (hapart : Apart (files.map Prod.fst)) (hoff : OffWays (files.map Prod.fst) (files.map Prod.fst))
    (hroom : HasRoom tree root (files.map Prod.fst))
    (hshown : ∀ path ∈ files.map Prod.fst, tree.fileAt (tree.siteBelow root path) ≠ none →
      '[' ∉ (Operator.overwriteQuestion (root.join (PathName.ofString path))).toList)
    (hunread : session.unread = []) :
    ∃ outcomes written between,
      writeAllMerged (Run.overwritePolicy settings) root files tree session =
          (⟨outcomes, none⟩, written, between) ∧
        FileTree.MakesWays ((files.map Prod.fst).map (tree.siteBelow root)) tree written := by
  -- The files behind keep their room, because no file stands on the way to another.
  induction files generalizing tree session with
  | nil => exact ⟨[], tree, session, rfl, .refl _ _⟩
  | cons file rest ih =>
    obtain ⟨path, content⟩ := file
    have htail : rest.map Prod.fst ⊆ ((path, content) :: rest).map Prod.fst :=
      List.subset_cons_self _ _
    have hrest : HasRoom tree root (rest.map Prod.fst) := fun other hother =>
      hroom other (htail hother)
    -- The first file is there, and its question is declined in silence, or it is created.
    have hstep : ∃ outcome middle settled,
        mergeText (Run.overwritePolicy settings) (root.join (PathName.ofString path)) content tree
            session = (.ok outcome, middle, settled) ∧ settled.unread = [] ∧
          FileTree.Grows [tree.siteBelow root path] tree middle ∧
            FileTree.MakesWays [tree.siteBelow root path] tree middle := by
      rcases (hroom path List.mem_cons_self).cases hfree content with
        ⟨hthere, hpresent, hread⟩ | ⟨habsent, after, hcreate, hgrows, hways⟩
      · obtain ⟨outcome, settled, hmerge, hended⟩ := mergeText_present hasks
          (hshown path List.mem_cons_self hthere) hpresent hread hunread
        exact ⟨outcome, tree, settled, hmerge, hended, .refl _ _, .refl _ _⟩
      · refine ⟨.created, after, session, ?_, hunread, hgrows, hways⟩
        rw [mergeText, encounter, habsent]
        dsimp only
        rw [hcreate]
    obtain ⟨outcome, middle, settled, hmerge, hended, hgrows, hways⟩ := hstep
    -- What was made for it is on its own way, so the others have room as before.
    have hroomRest : HasRoom middle root (rest.map Prod.fst) :=
      hrest.of_grows [path] hfree hgrows hways (by simpa using hapart.1 path)
        hapart.tail.1 (hoff.mono (by simp) htail) (hoff.mono htail (by simp))
    have hshownRest : ∀ other ∈ rest.map Prod.fst, middle.fileAt (middle.siteBelow root other) ≠ none →
        '[' ∉ (Operator.overwriteQuestion (root.join (PathName.ofString other))).toList := by
      intro other hother hthere
      rw [hgrows.siteBelow root, hgrows.files _ fun hsame => hapart.siteBelow_notMem tree root
        (List.mem_singleton.1 hsame ▸ List.mem_map_of_mem hother)] at hthere
      exact hshown other (htail hother) hthere
    have hannounced : ((Run.overwritePolicy settings).announce outcome
        (root.join (PathName.ofString path)) settled).unread = [] := hended
    obtain ⟨outcomes, written, between, hwrite, hbehind⟩ := ih (hgrows.linkFree hfree) hapart.tail
      (hoff.mono htail htail) hroomRest hshownRest hannounced
    refine ⟨(path, outcome) :: outcomes, written, between, ?_, ?_⟩
    · rw [writeAllMerged_cons_eq, writeMerged, hmerge]
      dsimp only
      rw [hwrite]
    · rw [hgrows.siteBelow root] at hbehind
      exact hways.trans hbehind

end

/-! ## Runs that have room -/

variable {settings : Settings} {endpoint method : String} {feature : Feature}
  {session asked : Session} {before : FileTree}

/-- **A run that has room succeeds** without an operator, if no question about a file that is there has
a bracket, and makes directories on the ways to its files only. -/
theorem generateLayers_of_hasRoom {source : SampleSource} {artifacts : List Artifact}
    (hproject : settings.project = none) (hasks : settings.overwriteAll = false)
    (hready : (prepare settings source endpoint method).run session =
      (.ok (.ready feature artifacts), asked)) (hunread : asked.unread = [])
    (hfree : before.LinkFree)
    (hroom : HasRoom before settings.outputDirectory (plannedPaths feature.name))
    (hshown : ∀ path ∈ plannedPaths feature.name,
      before.fileAt (before.siteBelow settings.outputDirectory path) ≠ none →
        '[' ∉ (Operator.overwriteQuestion
          (settings.outputDirectory.join (PathName.ofString path))).toList) :
    ∃ report after final, (generateLayers settings source endpoint method).run before session =
        ((.ok report, after), final) ∧ report.success = true ∧
      FileTree.MakesWays ((plannedPaths feature.name).map
        (before.siteBelow settings.outputDirectory)) before after := by
  obtain ⟨hname, hpaths⟩ := ready_paths hready
  have hfiles : (Run.files artifacts).map Prod.fst = plannedPaths feature.name := by
    rw [Run.files, List.map_map]
    exact hpaths
  rw [← hfiles] at hroom hshown ⊢
  obtain ⟨outcomes, written, between, hwrite, hways⟩ := writeAllMerged_of_hasRoom hasks hfree
    (hfiles ▸ planned_apart hname) (hfiles ▸ planned_offWays hname hname) hroom hshown hunread
  have hrun := generateLayers_eq settings source endpoint method before session
  rw [hready] at hrun
  dsimp only at hrun
  rw [commit_eq, hwrite] at hrun
  dsimp only at hrun
  rw [finish_eq hproject] at hrun
  exact ⟨_, written, _, hrun, rfl, hways⟩

end DartLayers
