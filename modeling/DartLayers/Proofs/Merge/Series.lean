import DartLayers.Proofs.Merge.Report
import Mathlib.Data.List.Forall2

/-!
# DartLayers — what the outcomes of several merges say

Files are merged one after the other, up to the first that cannot be written. What was recorded for
one of them stays right when the next ones are written, because no two lead to the same site. Only
the first file can be overlooked: once it is written, the directory they all stand in is there.

* **`writeAllMerged_cons`** — one step of the loop.
* **`writeAllMerged_append`** — a loop is carried on by the files behind it.
* **`writeAllMerged_stopped`** — where the loop stops, the files behind play no part.
* **`writeAllMerged_grows`** — only the sites of the listed files are written.
* **`writeAllMerged_reported_iff`** — the outcomes are right exactly if the first file was not
  overlooked.
-/

namespace DartLayers

/-! ## Sites below a root -/

/-- A path leads down: it is relative, not empty, and its parts are names. -/
def LeadsDown (path : String) : Prop :=
  (PathName.ofString path).root = "" ∧ pathParts path ≠ [] ∧ ∀ part ∈ pathParts path, IsName part

instance (path : String) : Decidable (LeadsDown path) :=
  inferInstanceAs (Decidable (_ ∧ _ ∧ _))

/-- The site of a path below a root. -/
def FileTree.siteBelow (tree : FileTree) (root : PathName) (path : String) : Location :=
  tree.siteOf (root.join (PathName.ofString path))

theorem LeadsDown.join_eq {path : String} (h : LeadsDown path) (root : PathName) :
    root.join (PathName.ofString path) = ⟨root.root, root.parts ++ pathParts path⟩ := by
  rw [PathName.join, if_pos h.1]
  rfl

theorem LeadsDown.siteBelow_eq {path : String} (h : LeadsDown path) (tree : FileTree)
    (root : PathName) : tree.siteBelow root path = tree.siteOf root ++ pathParts path := by
  rw [FileTree.siteBelow, h.join_eq, FileTree.siteOf, FileTree.siteOf, siteFrom_append,
    siteFrom_of_names h.2.2]
  rfl

theorem LeadsDown.namesFile {path : String} (h : LeadsDown path) (root : PathName) :
    FileTree.NamesFile (root.join (PathName.ofString path)) := by
  refine ⟨root.parts ++ (pathParts path).dropLast, (pathParts path).getLast h.2.1, ?_,
    h.2.2 _ (List.getLast_mem h.2.1)⟩
  rw [h.join_eq, List.append_assoc, List.dropLast_concat_getLast]

/-- A walk that reaches a path below a root comes through the root. -/
theorem LeadsDown.walkable_root {path : String} (h : LeadsDown path) {tree : FileTree}
    {root : PathName}
    (hwalk : tree.Walkable (tree.startOf (root.join (PathName.ofString path)))
      (root.join (PathName.ofString path)).parts) :
    tree.Walkable (tree.startOf root) root.parts := by
  rw [h.join_eq] at hwalk
  exact (FileTree.walkable_append.1 hwalk).1

/-- Paths that lead down to different places. -/
def Apart (paths : List String) : Prop :=
  (∀ path ∈ paths, LeadsDown path) ∧
    paths.Pairwise fun path other => pathParts path ≠ pathParts other

theorem Apart.tail {path : String} {rest : List String} (h : Apart (path :: rest)) : Apart rest :=
  ⟨fun other hother => h.1 other (List.mem_cons_of_mem _ hother), (List.pairwise_cons.1 h.2).2⟩

/-- No other path has the site of the first one. -/
theorem Apart.siteBelow_notMem {path : String} {rest : List String} (h : Apart (path :: rest))
    (tree : FileTree) (root : PathName) :
    tree.siteBelow root path ∉ rest.map (tree.siteBelow root) := by
  intro hmem
  obtain ⟨other, hother, hsite⟩ := List.mem_map.1 hmem
  rw [(h.1 path List.mem_cons_self).siteBelow_eq,
    (h.1 other (List.mem_cons_of_mem _ hother)).siteBelow_eq] at hsite
  exact (List.pairwise_cons.1 h.2).1 other hother (List.append_cancel_left hsite).symm

/-- The sites stay where they are while a tree grows. -/
theorem FileTree.Grows.siteBelow {sites : List Location} {before after : FileTree}
    (h : FileTree.Grows sites before after) (root : PathName) :
    after.siteBelow root = before.siteBelow root :=
  funext fun _ => h.siteOf _

/-- What stands on the right has a partner on the left. -/
theorem exists_partner {α β : Type} {relates : α → β → Prop} {firsts : List α} {seconds : List β}
    (h : List.Forall₂ relates firsts seconds) {second : β} (hmem : second ∈ seconds) :
    ∃ first ∈ firsts, relates first second := by
  induction h with
  | nil => cases hmem
  | cons hhead _ ih =>
    rcases List.mem_cons.1 hmem with rfl | hrest
    · exact ⟨_, List.mem_cons_self, hhead⟩
    · obtain ⟨first, hfirst, hrelates⟩ := ih hrest
      exact ⟨first, List.mem_cons_of_mem _ hfirst, hrelates⟩

/-- An entry among the outcomes is right about a file below a root. -/
def Recorded (before after : FileTree) (root : PathName) (file : String × String)
    (entry : String × Outcome) : Prop :=
  entry.1 = file.1 ∧ Reported before after (before.siteBelow root file.1) file.2 entry.2

/-! ## The loop -/

section

variable {ε σ : Type} {policy : WritePolicy ε σ} {root : PathName} {tree after : FileTree}
  {state final : σ} {files rest : List (String × String)} {written : Written ε}

-- The merge of the first file is not to be run here, only named.
attribute [local irreducible] writeMerged in
theorem writeAllMerged_cons_eq (policy : WritePolicy ε σ) (root : PathName) (path content : String)
    (rest : List (String × String)) (tree : FileTree) (state : σ) :
    writeAllMerged policy root ((path, content) :: rest) tree state =
      match writeMerged policy (root.join (PathName.ofString path)) content tree state with
      | (.error stop, tree, state) => (⟨[], some stop⟩, tree, state)
      | (.ok outcome, tree, state) =>
        match writeAllMerged policy root rest tree state with
        | (written, tree, state) =>
          (⟨(path, outcome) :: written.outcomes, written.stop⟩, tree, state) :=
  rfl

/-- **One step of the loop.** The first file stops it, or is merged and announced before the others
follow. -/
theorem writeAllMerged_cons {path content : String}
    (h : writeAllMerged policy root ((path, content) :: rest) tree state =
      (written, after, final)) :
    (∃ stop, mergeText policy (root.join (PathName.ofString path)) content tree state =
        (.error stop, after, final) ∧ written = ⟨[], some stop⟩) ∨
      ∃ outcome middle settled others,
        mergeText policy (root.join (PathName.ofString path)) content tree state =
            (.ok outcome, middle, settled) ∧
          writeAllMerged policy root rest middle
              (policy.announce outcome (root.join (PathName.ofString path)) settled) =
            (others, after, final) ∧
          written = ⟨(path, outcome) :: others.outcomes, others.stop⟩ := by
  rw [writeAllMerged_cons_eq, writeMerged] at h
  cases hmerge : mergeText policy (root.join (PathName.ofString path)) content tree state with
  | mk result middles =>
    obtain ⟨middle, settled⟩ := middles
    rw [hmerge] at h
    cases result with
    | error stop =>
      cases h
      exact .inl ⟨stop, rfl, rfl⟩
    | ok outcome =>
      refine .inr ⟨outcome, middle, settled, ?_⟩
      cases hrest : writeAllMerged policy root rest middle
          (policy.announce outcome (root.join (PathName.ofString path)) settled) with
      | mk others ends =>
        simp only [hrest] at h
        cases h
        exact ⟨others, rfl, rfl, rfl⟩

/-- **A loop is carried on** by the files behind it, unless it has stopped. -/
theorem writeAllMerged_append (policy : WritePolicy ε σ) (root : PathName)
    (files others : List (String × String)) (tree : FileTree) (state : σ) :
    writeAllMerged policy root (files ++ others) tree state =
      match writeAllMerged policy root files tree state with
      | (⟨outcomes, some stop⟩, tree, state) => (⟨outcomes, some stop⟩, tree, state)
      | (⟨outcomes, none⟩, tree, state) =>
        match writeAllMerged policy root others tree state with
        | (written, tree, state) => (⟨outcomes ++ written.outcomes, written.stop⟩, tree, state) := by
  induction files generalizing tree state with
  | nil => rfl
  | cons file rest ih =>
    obtain ⟨path, content⟩ := file
    rw [List.cons_append, writeAllMerged_cons_eq, writeAllMerged_cons_eq]
    cases writeMerged policy (root.join (PathName.ofString path)) content tree state with
    | mk result middles =>
      cases result with
      | error stop => rfl
      | ok outcome =>
        simp only [ih]
        cases writeAllMerged policy root rest middles.1 middles.2 with
        | mk written ends =>
          obtain ⟨outcomes, stop⟩ := written
          cases stop with
          | some stop => rfl
          | none => rfl

/-- The outcomes name the first paths, in order; all of them if nothing stopped the loop. -/
theorem writeAllMerged_outcomes
    (h : writeAllMerged policy root files tree state = (written, after, final)) :
    written.outcomes.map Prod.fst = (files.map Prod.fst).take written.outcomes.length ∧
      (written.stop = none → written.outcomes.length = files.length) := by
  induction files generalizing tree state written with
  | nil =>
    cases h
    exact ⟨rfl, fun _ => rfl⟩
  | cons file rest ih =>
    obtain ⟨path, content⟩ := file
    rcases writeAllMerged_cons h with ⟨stop, -, rfl⟩ | ⟨outcome, middle, settled, others, -, hrest, rfl⟩
    · exact ⟨rfl, fun h => by cases h⟩
    · obtain ⟨hpaths, hlength⟩ := ih hrest
      refine ⟨by simpa using hpaths, fun hnone => ?_⟩
      simpa using hlength hnone

/-- **Where the loop stops, the files behind play no part**: with any others in their place it comes
to the same. -/
theorem writeAllMerged_stopped
    (h : writeAllMerged policy root files tree state = (written, after, final))
    (hstop : written.stop ≠ none) :
    ∃ done stopped behind, files = done ++ stopped :: behind ∧
      written.outcomes.map Prod.fst = done.map Prod.fst ∧
        (∀ refused refusal, written.stop = some (.refused refused refusal) →
          refused = root.join (PathName.ofString stopped.1)) ∧
        ∀ others, writeAllMerged policy root (done ++ stopped :: others) tree state =
          (written, after, final) := by
  induction files generalizing tree state written with
  | nil =>
    cases h
    exact absurd rfl hstop
  | cons file rest ih =>
    obtain ⟨path, content⟩ := file
    rcases writeAllMerged_cons h with
      ⟨stop, hmerge, rfl⟩ | ⟨outcome, middle, settled, others, hmerge, hrest, rfl⟩
    · refine ⟨[], (path, content), rest, rfl, rfl, fun refused refusal hrefused => ?_,
        fun others => ?_⟩
      · cases hrefused
        exact mergeText_refused hmerge
      · rw [List.nil_append, writeAllMerged_cons_eq, writeMerged, hmerge]
    · obtain ⟨done, stopped, behind, rfl, hdone, hrefused, hsame⟩ := ih hrest hstop
      refine ⟨(path, content) :: done, stopped, behind, rfl, by simpa using hdone, hrefused,
        fun more => ?_⟩
      rw [List.cons_append, writeAllMerged_cons_eq, writeMerged, hmerge]
      simp only [hsame more]

/-- Where the parts of the root are names no file is overlooked, as far as the system takes its
path. -/
theorem not_overlooked_of_names {path : String} (hfree : tree.LinkFree)
    (hroot : ∀ part ∈ root.parts, IsName part) (hdown : LeadsDown path)
    (haccepted : FileTree.Accepted (root.join (PathName.ofString path))) :
    ¬ Overlooked tree (root.join (PathName.ofString path)) := by
  rw [hdown.join_eq] at haccepted ⊢
  refine FileTree.not_overlooked_of_walkable hfree (List.nil_append _).symm (fun part hpart => ?_)
    haccepted trivial
  exact (List.mem_append.1 hpart).elim (hroot part) (hdown.2.2 part)

variable (hkeeps : policy.KeepsFiles)

include hkeeps

/-- **Only the sites of the listed files are written.** -/
theorem writeAllMerged_grows (hfree : tree.LinkFree)
    (hdown : ∀ path ∈ files.map Prod.fst, LeadsDown path)
    (h : writeAllMerged policy root files tree state = (written, after, final)) :
    FileTree.Grows (written.outcomes.map fun entry => tree.siteBelow root entry.1) tree after := by
  induction files generalizing tree state written with
  | nil =>
    cases h
    exact .refl _ _
  | cons file rest ih =>
    obtain ⟨path, content⟩ := file
    have hfile := (hdown path (by simp)).namesFile root
    rcases writeAllMerged_cons h with
      ⟨stop, hmerge, rfl⟩ | ⟨outcome, middle, settled, others, hmerge, hrest, rfl⟩
    · exact mergeText_grows hkeeps hfree hfile hmerge
    · have hfirst := mergeText_grows hkeeps hfree hfile hmerge
      have hothers := ih (hfirst.linkFree hfree)
        (fun other hother => hdown other (List.mem_cons_of_mem _ hother)) hrest
      rw [hfirst.siteBelow root] at hothers
      exact (hfirst.trans hothers).mono (by simp [FileTree.siteBelow, Except.isOk, Except.toBool])

/-- What was recorded for the first file stays right while the others are written. -/
theorem writeAllMerged_keeps_first {path : String} (hfree : tree.LinkFree)
    (hapart : Apart (path :: files.map Prod.fst))
    (h : writeAllMerged policy root files tree state = (written, after, final)) :
    after.fileAt (tree.siteBelow root path) = tree.fileAt (tree.siteBelow root path) := by
  refine (writeAllMerged_grows hkeeps hfree hapart.tail.1 h).files _ fun hmem => ?_
  obtain ⟨entry, hentry, hsite⟩ := List.mem_map.1 hmem
  refine hapart.siteBelow_notMem tree root (hsite ▸ List.mem_map_of_mem ?_)
  have hpaths := (writeAllMerged_outcomes h).1
  exact List.mem_of_mem_take (hpaths ▸ List.mem_map_of_mem hentry)

/-- Below a root that is walked to every outcome is right, also in view of an earlier tree that has
grown at other sites. -/
theorem writeAllMerged_reported_of_walkable {sites : List Location} {initial : FileTree}
    (hgrown : FileTree.Grows sites initial tree) (hfree : tree.LinkFree)
    (hapart : Apart (files.map Prod.fst))
    (hsites : ∀ path ∈ files.map Prod.fst, initial.siteBelow root path ∉ sites)
    (hwalk : tree.Walkable (tree.startOf root) root.parts)
    (h : writeAllMerged policy root files tree state = (written, after, final)) :
    List.Forall₂ (Recorded initial after root) (files.take written.outcomes.length)
      written.outcomes := by
  induction files generalizing sites tree state written with
  | nil =>
    cases h
    exact .nil
  | cons file rest ih =>
    obtain ⟨path, content⟩ := file
    have hdown := hapart.1 path List.mem_cons_self
    rcases writeAllMerged_cons h with
      ⟨stop, hmerge, rfl⟩ | ⟨outcome, middle, settled, others, hmerge, hrest, rfl⟩
    · exact .nil
    · have hfirst : FileTree.Grows [tree.siteBelow root path] tree middle :=
        mergeText_grows hkeeps hfree (hdown.namesFile root) hmerge
      obtain ⟨hreport, haccepted, -⟩ :=
        mergeText_reported hkeeps hfree (hdown.namesFile root) hmerge
      have hlooked : ¬ Overlooked tree (root.join (PathName.ofString path)) := by
        rw [hdown.join_eq] at haccepted ⊢
        exact FileTree.not_overlooked_of_walkable hfree rfl hdown.2.2 haccepted hwalk
      have hright := (hreport.resolve_right fun hover => hlooked hover.1).2
      have hkept := writeAllMerged_keeps_first hkeeps (hfirst.linkFree hfree) hapart hrest
      rw [hfirst.siteBelow root] at hkept
      rw [List.length_cons, List.take_succ_cons]
      refine .cons ⟨rfl, ?_⟩ (ih (hgrown.trans hfirst) (hfirst.linkFree hfree) hapart.tail ?_
        (hfirst.walkable hwalk) hrest)
      · -- The site is none of the earlier ones, nor do the others write it.
        have hfresh := hsites path List.mem_cons_self
        rw [← hgrown.siteBelow root] at hfresh ⊢
        exact hright.congr hgrown.look_eq_none (hgrown.files _ hfresh).symm hkept
      · intro other hother
        rw [List.mem_append, not_or, List.mem_singleton, hgrown.siteBelow root]
        refine ⟨hsites other (List.mem_cons_of_mem _ hother), fun hsame => ?_⟩
        exact hapart.siteBelow_notMem initial root (hsame ▸ List.mem_map_of_mem hother)

/-- The outcomes are right from the second one on; the first one is right, too, unless its file was
overlooked. -/
theorem writeAllMerged_reported {path content : String} (hfree : tree.LinkFree)
    (hapart : Apart (path :: rest.map Prod.fst))
    (h : writeAllMerged policy root ((path, content) :: rest) tree state =
      (written, after, final)) :
    written.outcomes = [] ∨ ∃ outcome others, written.outcomes = (path, outcome) :: others ∧
      (¬ Overlooked tree (root.join (PathName.ofString path)) ∧
            Reported tree after (tree.siteBelow root path) content outcome ∨
          Overlooked tree (root.join (PathName.ofString path)) ∧ outcome = .created ∧
            after.fileAt (tree.siteBelow root path) = some content.toUTF8) ∧
      List.Forall₂ (Recorded tree after root) (rest.take others.length) others := by
  have hdown := hapart.1 path List.mem_cons_self
  rcases writeAllMerged_cons h with
    ⟨stop, hmerge, rfl⟩ | ⟨outcome, middle, settled, others, hmerge, hrest, rfl⟩
  · exact .inl rfl
  · refine .inr ⟨outcome, others.outcomes, rfl, ?_⟩
    have hfirst : FileTree.Grows [tree.siteBelow root path] tree middle :=
      mergeText_grows hkeeps hfree (hdown.namesFile root) hmerge
    obtain ⟨hreport, -, hwalk⟩ := mergeText_reported hkeeps hfree (hdown.namesFile root) hmerge
    have hkept := writeAllMerged_keeps_first hkeeps (hfirst.linkFree hfree) hapart hrest
    rw [hfirst.siteBelow root] at hkept
    refine ⟨?_, ?_⟩
    · rcases hreport with ⟨hlooked, hright⟩ | ⟨hover, hcreated, hbytes⟩
      · exact .inl ⟨hlooked, hright.congr id rfl hkept⟩
      · exact .inr ⟨hover, hcreated, hkept.trans hbytes⟩
    · refine writeAllMerged_reported_of_walkable hkeeps hfirst (hfirst.linkFree hfree) hapart.tail
        (fun other hother => ?_) (hdown.walkable_root hwalk) hrest
      rw [List.mem_singleton]
      exact fun hsame => hapart.siteBelow_notMem tree root (hsame ▸ List.mem_map_of_mem hother)

/-- Overlooked or not, a file that has an outcome is there, with its content or as it was. -/
theorem writeAllMerged_fileAt {path content : String} (hfree : tree.LinkFree)
    (hapart : Apart (path :: rest.map Prod.fst))
    (h : writeAllMerged policy root ((path, content) :: rest) tree state =
      (written, after, final))
    {name : String} {outcome : Outcome} (hmem : (name, outcome) ∈ written.outcomes) :
    ∃ text, (name, text) ∈ (path, content) :: rest ∧
      after.fileAt (tree.siteBelow root name) =
          outcome.bytes? text (tree.fileAt (tree.siteBelow root name)) ∧
        after.fileAt (tree.siteBelow root name) ≠ none := by
  rcases writeAllMerged_reported hkeeps hfree hapart h with
    hnone | ⟨first, others, hsome, hfirst, hrest⟩
  · rw [hnone] at hmem
    cases hmem
  · rw [hsome] at hmem
    rcases List.mem_cons.1 hmem with hhead | hother
    · cases hhead
      refine ⟨content, List.mem_cons_self, ?_⟩
      rcases hfirst with ⟨-, hreport⟩ | ⟨-, hcreated, hbytes⟩
      · exact hreport.fileAt_eq
      · rw [hcreated]
        exact ⟨hbytes, by rw [hbytes]; exact Option.some_ne_none _⟩
    · obtain ⟨⟨found, text⟩, hfile, hname, hreport⟩ := exists_partner hrest hother
      dsimp only at hname hreport
      subst hname
      exact ⟨text, List.mem_cons_of_mem _ (List.mem_of_mem_take hfile), hreport.fileAt_eq⟩

/-- The system takes the path of a file that has an outcome. -/
theorem accepted_of_outcomes {path content : String} (hfree : tree.LinkFree)
    (hdown : LeadsDown path)
    (h : writeAllMerged policy root ((path, content) :: rest) tree state =
      (written, after, final)) (hsome : written.outcomes ≠ []) :
    FileTree.Accepted (root.join (PathName.ofString path)) := by
  rcases writeAllMerged_cons h with ⟨stop, -, rfl⟩ | ⟨outcome, middle, settled, others, hmerge, -⟩
  · exact absurd rfl hsome
  · exact (mergeText_reported hkeeps hfree (hdown.namesFile root) hmerge).2.1

/-- **The outcomes of several merges are right exactly if the first file was not overlooked.** -/
theorem writeAllMerged_reported_iff {path content : String} (hfree : tree.LinkFree)
    (hapart : Apart (path :: rest.map Prod.fst))
    (h : writeAllMerged policy root ((path, content) :: rest) tree state =
      (written, after, final)) :
    List.Forall₂ (Recorded tree after root)
        (((path, content) :: rest).take written.outcomes.length) written.outcomes ↔
      (written.outcomes ≠ [] → ¬ Overlooked tree (root.join (PathName.ofString path))) := by
  rcases writeAllMerged_reported hkeeps hfree hapart h with
    hnone | ⟨outcome, others, hsome, hfirst, hrest⟩
  · simp [hnone]
  · rw [hsome, List.length_cons, List.take_succ_cons, List.forall₂_cons]
    rcases hfirst with ⟨hlooked, hright⟩ | ⟨hover, rfl, -⟩
    · exact ⟨fun _ _ => hlooked, fun _ => ⟨⟨rfl, hright⟩, hrest⟩⟩
    · -- The outcome says that nothing was there, but a file was.
      refine ⟨fun hreported => ?_, fun hlooked => absurd hover (hlooked (List.cons_ne_nil _ _))⟩
      obtain ⟨⟨-, hreport⟩, -⟩ := hreported
      obtain ⟨bytes, hbytes⟩ := hover.2
      rw [FileTree.fileAt_eq_some] at hbytes
      cases hreport with
      | created hnone hafter => exact absurd (hbytes.symm.trans hnone) (Option.some_ne_none _)

/-- A file that was there and has changed was overwritten with an outcome that says so, unless it was
overlooked. -/
theorem writeAllMerged_changed {path content : String} (hfree : tree.LinkFree)
    (hapart : Apart (path :: rest.map Prod.fst))
    (h : writeAllMerged policy root ((path, content) :: rest) tree state =
      (written, after, final))
    {location : Location} {bytes : ByteArray} (hbefore : tree.fileAt location = some bytes)
    (hchanged : after.fileAt location ≠ some bytes) :
    (∃ name, (name, Outcome.overwritten) ∈ written.outcomes ∧
        location = tree.siteBelow root name) ∨
      (location = tree.siteBelow root path ∧
        Overlooked tree (root.join (PathName.ofString path))) := by
  have hdown : ∀ name ∈ ((path, content) :: rest).map Prod.fst, LeadsDown name := hapart.1
  have hgrows := writeAllMerged_grows hkeeps hfree hdown h
  -- A location that is not listed keeps its file.
  have hlisted : location ∈ written.outcomes.map fun entry => tree.siteBelow root entry.1 :=
    Classical.byContradiction fun hnot => hchanged ((hgrows.files location hnot).trans hbefore)
  obtain ⟨⟨name, outcome⟩, hentry, rfl⟩ := List.mem_map.1 hlisted
  rcases writeAllMerged_reported hkeeps hfree hapart h with
    hnone | ⟨first, others, hsome, hfirst, hrest⟩
  · rw [hnone] at hentry
    cases hentry
  · rw [hsome] at hentry
    rcases List.mem_cons.1 hentry with hhead | hother
    · cases hhead
      rcases hfirst with ⟨-, hreport⟩ | ⟨hover, -, -⟩
      · cases hreport.overwritten_of_changed hbefore hchanged
        exact .inl ⟨path, by rw [hsome]; exact List.mem_cons_self, rfl⟩
      · exact .inr ⟨rfl, hover⟩
    · obtain ⟨file, -, hname, hreport⟩ := exists_partner hrest hother
      dsimp only at hname hreport
      rw [← hname] at hreport
      cases hreport.overwritten_of_changed hbefore hchanged
      exact .inl ⟨name, by rw [hsome]; exact List.mem_cons_of_mem _ hother, rfl⟩

end

end DartLayers
