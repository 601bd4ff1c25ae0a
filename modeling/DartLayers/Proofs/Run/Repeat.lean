import DartLayers.Proofs.Merge.Again
import DartLayers.Proofs.Run.Consent
import DartLayers.Proofs.Run.Contents
import DartLayers.Proofs.Run.Succession

/-!
# DartLayers — repeated runs

A run that is repeated finds the files that the first one has left. It leaves all of them as they are,
provided that the operator replaces none or the settings replace all. But it need not succeed: a file
that was created with a carriage return in it is not recognised, and the question about it may be one
that cannot be shown.

* **`FileTree.Same`** — trees that look the same everywhere.
* **`mergeText_again`**, **`writeAllMerged_again`** — merging what is settled changes nothing.
* **`generateLayers_again_iff`** — a repeated run changes nothing, and succeeds exactly if every
  question about a file that is not recognised can be shown.
-/

namespace DartLayers

/-! ## Trees that look the same -/

/-- Trees that look the same everywhere. -/
structure FileTree.Same (before after : FileTree) : Prop where
  home : after.home = before.home
  look : ∀ location, after.look location = before.look location

namespace FileTree.Same

variable {before middle after : FileTree} {path : PathName}

theorem refl (tree : FileTree) : Same tree tree :=
  ⟨rfl, fun _ => rfl⟩

theorem symm (h : Same before after) : Same after before :=
  ⟨h.home.symm, fun location => (h.look location).symm⟩

theorem trans (h₁ : Same before middle) (h₂ : Same middle after) : Same before after :=
  ⟨h₂.home.trans h₁.home, fun location => (h₂.look location).trans (h₁.look location)⟩

theorem linkFree (h : Same before after) (hfree : before.LinkFree) : after.LinkFree :=
  fun location target => h.look location ▸ hfree location target

theorem keepsWays (h : Same before after) : KeepsWays before after :=
  ⟨h.home, fun location hlook => (h.look location).trans hlook,
    fun location _ => by rw [h.look location]⟩

theorem readBytes (h : Same before after) {bytes : ByteArray}
    (hread : before.readBytes path = .ok bytes) : after.readBytes path = .ok bytes := by
  obtain ⟨location, hfind⟩ := readBytes_iff.1 hread
  exact readBytes_iff.2 ⟨location, find_of_keepsWays h.keepsWays hfind
    ((h.look location).trans (locate_of_find hfind).2)⟩

theorem conflicts (h : Same before after) {content : String}
    (hconflict : Conflicts before path content) : Conflicts after path content := by
  obtain ⟨bytes, hread, hother⟩ := hconflict
  exact ⟨bytes, h.readBytes hread, hother⟩

end FileTree.Same

/-- The question about a path can be shown. -/
def IsShowable (path : PathName) : Prop :=
  ∃ shown, Markup.plain (Operator.overwriteQuestion path) = .ok shown

variable {settings : Settings} {path root : PathName} {content : String}
  {tree after : FileTree} {session settled final : Session}

/-! ## One file -/

/-- A question that can be shown is answered. -/
theorem confirmOverwrite_of_shown {shown : String}
    (hshown : Markup.plain (Operator.overwriteQuestion path) = .ok shown) (session : Session) :
    ∃ answer settled,
      (Operator.confirmOverwrite path).run session = (.ok answer, settled) := by
  rw [confirmOverwrite_run, hshown]
  exact ⟨_, _, rfl⟩

/-- A file is only skipped if the operator was asked about it. -/
theorem mergeText_skipped
    (h : mergeText (Run.overwritePolicy settings) path content tree session =
      (.ok .skipped, after, final)) : settings.overwriteAll = false ∧ IsShowable path := by
  cases mergeText_cases h with
  | skipped reply _ _ hconflict hsettle hreply =>
    cases hasks : settings.overwriteAll with
    | true =>
      rw [Run.overwritePolicy] at hsettle
      simp only [hasks, if_true] at hsettle
      cases hsettle
      exact absurd rfl hreply
    | false =>
      refine ⟨rfl, ?_⟩
      cases hshown : Markup.plain (Operator.overwriteQuestion path) with
      | ok shown => exact ⟨shown, hshown⟩
      | error fault =>
        rw [settle_of_fault hasks hshown] at hsettle
        cases hsettle

/-- Replacing a file by its own bytes changes nothing. -/
theorem same_of_writeText (hhome : tree.Starts path)
    (hread : tree.readBytes path = .ok content.toUTF8)
    (hwrite : tree.writeText path content = .ok after) : FileTree.Same tree after := by
  obtain ⟨location, hwrote⟩ := FileTree.wrote_of_writeText hhome hwrite
  refine ⟨hwrote.keeps.home, fun other => ?_⟩
  by_cases hother : other = location
  · subst hother
    obtain ⟨place, hfind⟩ := FileTree.readBytes_iff.1 hread
    obtain ⟨hlocate, hlook⟩ := FileTree.locate_of_find hfind
    have htarget := FileTree.locate_target_of_newFile hwrote.place
    rw [hlocate] at htarget
    cases htarget
    rw [(FileTree.locate_of_find hwrote.found).2, hlook]
  · exact hwrote.others other hother

/-- **Merging what is settled changes nothing.** It stops only at a conflict that cannot be asked
about. -/
theorem mergeText_again (hfree : tree.LinkFree) (hfile : FileTree.NamesFile path)
    {bytes : ByteArray} (hread : tree.readBytes path = .ok bytes)
    (hall : settings.overwriteAll = true → Contains bytes content ∨ bytes = content.toUTF8)
    {result : Except (WriteStop Markup.Fault) Outcome}
    (h : mergeText (Run.overwritePolicy settings) path content tree session =
      (result, after, final))
    (hdeclined : settings.overwriteAll = false →
      ∀ exchange ∈ session.dialogue final, ¬ Consented exchange path) :
    FileTree.Same tree after ∧ (result.isOk = true ↔
      settings.overwriteAll = true ∨ (Conflicts tree path content → IsShowable path)) := by
  have hpresent := FileTree.isPresent_of_readBytes hread
  by_cases hholds : Contains bytes content
  · -- The content is found.
    have hnot : ¬ Conflicts tree path content := by
      rintro ⟨others, hothers, hother⟩
      rw [hread] at hothers
      cases hothers
      exact hother hholds
    rw [mergeText, encounter, hpresent] at h
    simp only [hread, holdsContent_iff.2 hholds, if_true] at h
    cases h
    exact ⟨.refl _, iff_of_true rfl (.inr fun hconflict => absurd hconflict hnot)⟩
  · -- The content is not found: the merge asks, and it could write the file.
    have hconflict : Conflicts tree path content := ⟨bytes, hread, hholds⟩
    obtain ⟨location, hfind⟩ := FileTree.readBytes_iff.1 hread
    obtain ⟨written, hwrite⟩ := FileTree.exists_writeText hfree hfile hfind content
    have hstart : tree.Starts path := by
      obtain ⟨parts, name, hparts, -⟩ := hfile
      exact FileTree.starts_of_parts (by simp [hparts])
    have hmerge := h
    rw [mergeText, encounter_eq_conflict_iff.2 hconflict] at hmerge
    dsimp only at hmerge
    rw [settleConflict] at hmerge
    cases hasks : settings.overwriteAll with
    -- Everything is replaced, by the bytes that are there.
    | true =>
      have hsettle : (Run.overwritePolicy settings).settle path tree session =
          (.ok (.bool true), tree, session) := by
        rw [Run.overwritePolicy]
        simp only [hasks, if_true]
      rw [hsettle] at hmerge
      simp only [consents, if_true, hwrite] at hmerge
      cases hmerge
      have hbytes := (hall hasks).resolve_left hholds
      rw [hbytes] at hread
      exact ⟨same_of_writeText hstart hread hwrite, by simp [Except.isOk, Except.toBool]⟩
    -- The operator is asked, if the question can be shown.
    | false =>
      cases hshown : Markup.plain (Operator.overwriteQuestion path) with
      | error fault =>
        rw [settle_of_fault hasks hshown] at hmerge
        cases hmerge
        refine ⟨.refl _, iff_of_false (by simp [Except.isOk, Except.toBool]) ?_⟩
        rintro (hover | hshowable)
        · cases hover
        · obtain ⟨shown, hsame⟩ := hshowable hconflict
          rw [hshown] at hsame
          cases hsame
      | ok shown =>
        obtain ⟨answer, settled, hanswer⟩ := confirmOverwrite_of_shown hshown session
        rw [settle_eq hasks, hanswer] at hmerge
        cases answer with
        | false =>
          simp only [Except.map, consents, Bool.false_eq_true, if_false] at hmerge
          cases hmerge
          exact ⟨.refl _, iff_of_true rfl (.inr fun _ => ⟨shown, hshown⟩)⟩
        | true =>
          -- The operator has consented, which was excluded.
          simp only [Except.map, consents, if_true, hwrite] at hmerge
          cases hmerge
          obtain ⟨entries, -, hyes⟩ := mergeText_consented hasks h
          obtain ⟨exchange, hmem, hconsented⟩ := hyes rfl
          exact absurd hconsented (hdeclined hasks exchange hmem)

/-! ## Several files -/

/-- Files that are settled in a tree, where nothing is left to replace. -/
def AllSettled (settings : Settings) (root : PathName) (files : List (String × String))
    (tree : FileTree) : Prop :=
  ∀ file ∈ files, ∃ bytes, tree.readBytes (root.join (PathName.ofString file.1)) = .ok bytes ∧
    (settings.overwriteAll = true → Contains bytes file.2 ∨ bytes = file.2.toUTF8)

/-- **Merging several files that are settled changes nothing.** It stops only at a conflict that cannot
be asked about. -/
theorem writeAllMerged_again {files : List (String × String)} (hfree : tree.LinkFree)
    (hdown : ∀ file ∈ files, LeadsDown file.1) (hsettled : AllSettled settings root files tree)
    {written : Written Markup.Fault}
    (h : writeAllMerged (Run.overwritePolicy settings) root files tree session =
      (written, after, final))
    (hdeclined : settings.overwriteAll = false →
      ∀ exchange ∈ session.dialogue final, ∀ path, ¬ Consented exchange path) :
    FileTree.Same tree after ∧ (written.stop = none ↔ settings.overwriteAll = true ∨
      ∀ file ∈ files, Conflicts tree (root.join (PathName.ofString file.1)) file.2 →
        IsShowable (root.join (PathName.ofString file.1))) := by
  induction files generalizing tree session written with
  | nil =>
    cases h
    exact ⟨.refl _, iff_of_true rfl (.inr fun _ h => by cases h)⟩
  | cons file rest ih =>
    obtain ⟨path, content⟩ := file
    have hfile := (hdown _ List.mem_cons_self).namesFile root
    obtain ⟨bytes, hread, hall⟩ := hsettled _ List.mem_cons_self
    rcases writeAllMerged_cons h with
      ⟨stop, hmerge, rfl⟩ | ⟨outcome, middle, settled, others, hmerge, hrest, rfl⟩
    · -- The merge of the first file stops, so its question cannot be shown.
      obtain ⟨hsame, hok⟩ := mergeText_again hfree hfile hread hall hmerge
        fun hasks exchange hmem => hdeclined hasks exchange hmem _
      refine ⟨hsame, iff_of_false (Option.some_ne_none _) ?_⟩
      rintro (hover | hshown)
      · cases hok.2 (.inl hover)
      · cases hok.2 (.inr (hshown _ List.mem_cons_self))
    · -- Neither this file nor the ones behind it are replaced by consent.
      have hdialogue : settings.overwriteAll = false →
          session.dialogue final = session.dialogue settled ++
            ((Run.overwritePolicy settings).announce outcome
              (root.join (PathName.ofString path)) settled).dialogue final := by
        intro hasks
        obtain ⟨first, hfirst, -⟩ := mergeText_consented hasks hmerge
        obtain ⟨hannounce, hquiet⟩ :=
          talks_announce settings outcome (root.join (PathName.ofString path)) settled
        obtain ⟨second, hsecond, -⟩ := writeAllMerged_consented hasks hrest
        rw [hfirst.dialogue_trans (hannounce.trans hsecond), hannounce.dialogue_trans hsecond,
          hannounce.dialogue_eq, hquiet]
        rfl
      have hdeclinedFirst : settings.overwriteAll = false →
          ∀ exchange ∈ session.dialogue settled,
            ¬ Consented exchange (root.join (PathName.ofString path)) := by
        intro hasks exchange hmem
        refine hdeclined hasks exchange ?_ _
        rw [hdialogue hasks]
        exact List.mem_append_left _ hmem
      -- The first file is as it was, so the others are still settled.
      obtain ⟨hsame, hok⟩ := mergeText_again hfree hfile hread hall hmerge hdeclinedFirst
      have hothers : AllSettled settings root rest middle := by
        intro other hother
        obtain ⟨found, hfound, hkept⟩ := hsettled other (List.mem_cons_of_mem _ hother)
        exact ⟨found, hsame.readBytes hfound, hkept⟩
      have hdeclinedRest : settings.overwriteAll = false →
          ∀ exchange ∈ ((Run.overwritePolicy settings).announce outcome
            (root.join (PathName.ofString path)) settled).dialogue final,
            ∀ path, ¬ Consented exchange path := by
        intro hasks exchange hmem
        refine hdeclined hasks exchange ?_
        rw [hdialogue hasks]
        exact List.mem_append_right _ hmem
      obtain ⟨hrestSame, hstop⟩ := ih (hsame.linkFree hfree)
        (fun other hother => hdown other (List.mem_cons_of_mem _ hother)) hothers hrest
        hdeclinedRest
      -- All merges come through if the first one does and the others do.
      refine ⟨hsame.trans hrestSame, fun hnone => ?_, ?_⟩
      · rcases hstop.1 hnone with hover | hshown
        · exact .inl hover
        · refine (hok.1 rfl).imp_right fun hhead other hother => ?_
          rcases List.mem_cons.1 hother with rfl | hother
          · exact hhead
          · exact fun hconflict => hshown other hother (hsame.conflicts hconflict)
      · rintro (hover | hshown)
        · exact hstop.2 (.inl hover)
        · exact hstop.2 (.inr fun other hother hconflict =>
            hshown other (List.mem_cons_of_mem _ hother) (hsame.symm.conflicts hconflict))

/-- A file is only skipped among others if the operator was asked about it. -/
theorem writeAllMerged_skipped {files : List (String × String)} {written : Written Markup.Fault}
    (h : writeAllMerged (Run.overwritePolicy settings) root files tree session =
      (written, after, final)) {name : String} (hmem : (name, .skipped) ∈ written.outcomes) :
    settings.overwriteAll = false ∧ IsShowable (root.join (PathName.ofString name)) := by
  induction files generalizing tree session written with
  | nil =>
    cases h
    cases hmem
  | cons file rest ih =>
    obtain ⟨path, content⟩ := file
    rcases writeAllMerged_cons h with
      ⟨stop, hmerge, rfl⟩ | ⟨outcome, middle, settled, others, hmerge, hrest, rfl⟩
    · cases hmem
    · rcases List.mem_cons.1 hmem with hhead | hother
      · cases hhead
        exact mergeText_skipped hmerge
      · exact ih hrest hother

/-- Without consent no file is overwritten. -/
theorem overwritten_notMem {files : List (String × String)} {written : Written Markup.Fault}
    (hasks : settings.overwriteAll = false)
    (h : writeAllMerged (Run.overwritePolicy settings) root files tree session =
      (written, after, final))
    (hdeclined : ∀ exchange ∈ session.dialogue final, ∀ path, ¬ Consented exchange path)
    (name : String) : (name, .overwritten) ∉ written.outcomes := by
  intro hmem
  obtain ⟨entries, -, consents, hsub, hconsents⟩ := writeAllMerged_consented hasks h
  obtain ⟨exchange, hexchange, hconsented⟩ := exists_partner
    (List.Forall₂.flip hconsents) (List.mem_filter.2 ⟨hmem, by simp⟩)
  exact hdeclined exchange (hsub.subset hexchange) _ hconsented

/-! ## Repeated runs -/

variable {source : SampleSource} {endpoint method : String} {feature : Feature}
  {artifacts : List Artifact} {before middle written : FileTree}
  {asked between later confirmed ended : Session} {report : RunResult}
  {result : Except Interruption RunResult}

/-- Without a project a run that came to the writing succeeds exactly if no file stopped it. -/
theorem commit_succeeds_iff (hproject : settings.project = none)
    {writing : Written Markup.Fault}
    (hwrite : writeAllMerged (Run.overwritePolicy settings) settings.outputDirectory
      (Run.files artifacts) before asked = (writing, written, between))
    (h : (Run.commit settings feature artifacts).run before asked = ((result, after), final)) :
    (∃ report, result = .ok report ∧ report.success = true) ↔ writing.stop = none := by
  obtain ⟨outcomes, stop⟩ := writing
  rw [commit_eq, hwrite] at h
  cases stop with
  | none =>
    dsimp only at h
    rw [finish_eq hproject] at h
    cases h
    exact iff_of_true ⟨_, rfl, rfl⟩ rfl
  | some stop =>
    refine iff_of_false ?_ (Option.some_ne_none stop)
    rintro ⟨report, rfl, hsuccess⟩
    cases stop <;> cases h
    cases hsuccess

/-- The dialogue about the files is part of the dialogue of the run. -/
theorem mem_dialogue_of_writing (hasks : settings.overwriteAll = false)
    (hready : (prepare settings source endpoint method).run session =
      (.ok (.ready feature artifacts), asked))
    {writing : Written Markup.Fault}
    (hwrite : writeAllMerged (Run.overwritePolicy settings) settings.outputDirectory
      (Run.files artifacts) before asked = (writing, written, between))
    {entries : Log} (hends : between.Talks final entries) {exchange : String × Option String}
    (hmem : exchange ∈ asked.dialogue between) : exchange ∈ session.dialogue final := by
  obtain ⟨_, hprepared, -⟩ := (speaks_prepare settings source endpoint method).of_eq hready
  obtain ⟨_, hwritten, -⟩ := writeAllMerged_consented hasks hwrite
  rw [hprepared.dialogue_trans (hwritten.trans hends), hwritten.dialogue_trans hends]
  exact List.mem_append_right _ (List.mem_append_left _ hmem)

/-- The files of a run that has succeeded are settled. -/
theorem allSettled_of_success {files : List (String × String)} {writing : Written Markup.Fault}
    (hwrite : writeAllMerged (Run.overwritePolicy settings) root files before asked =
      (writing, middle, between))
    (hsettled : List.Forall₂ (fun file entry => Prod.fst entry = Prod.fst file ∧
      Settled middle (root.join (PathName.ofString (Prod.fst file))) (Prod.snd file)
        (Prod.snd entry)) files writing.outcomes) : AllSettled settings root files middle := by
  intro file hfile
  obtain ⟨⟨name, outcome⟩, hentry, -, bytes, hread, hbytes⟩ :=
    exists_partner (List.Forall₂.flip hsettled) hfile
  refine ⟨bytes, hread, fun hover => ?_⟩
  cases outcome with
  | created => exact .inr hbytes
  | overwritten => exact .inr hbytes
  | unchanged => exact .inl hbytes
  | skipped =>
    -- Where everything is replaced nothing is skipped.
    have hasks := (writeAllMerged_skipped hwrite hentry).1
    rw [hover] at hasks
    cases hasks

/-- Without consent, a file that a run has left in conflict was created with a carriage return in it,
or it was asked about. -/
theorem conflict_cases {files : List (String × String)} {writing : Written Markup.Fault}
    (hasks : settings.overwriteAll = false)
    (hwrite : writeAllMerged (Run.overwritePolicy settings) root files before asked =
      (writing, middle, between))
    (hdeclined : ∀ exchange ∈ asked.dialogue between, ∀ path, ¬ Consented exchange path)
    {file : String × String} {entry : String × Outcome} (hentry : entry ∈ writing.outcomes)
    (hname : entry.1 = file.1)
    (hsettled : Settled middle (root.join (PathName.ofString file.1)) file.2 entry.2) :
    Conflicts middle (root.join (PathName.ofString file.1)) file.2 ↔
      entry.2 = .created ∧ '\r' ∈ file.2.toList ∨
        entry.2 = .skipped ∧ IsShowable (root.join (PathName.ofString file.1)) := by
  obtain ⟨name, outcome⟩ := entry
  dsimp only at hname hsettled ⊢
  subst hname
  obtain ⟨bytes, hread, hbytes⟩ := hsettled
  have hconflicts : Conflicts middle (root.join (PathName.ofString file.1)) file.2 ↔
      ¬ Contains bytes file.2 := by
    refine ⟨?_, fun hother => ⟨bytes, hread, hother⟩⟩
    rintro ⟨others, hothers, hother⟩
    rw [hread] at hothers
    cases hothers
    exact hother
  rw [hconflicts]
  -- What was created is found again but for its carriage returns; what was declined is as it was.
  cases outcome with
  | created =>
    dsimp only at hbytes
    rw [hbytes, contains_toUTF8_iff, Classical.not_not]
    simp
  | overwritten => exact absurd hentry (overwritten_notMem hasks hwrite hdeclined _)
  | unchanged => simpa using hbytes
  | skipped =>
    have hshown := (writeAllMerged_skipped hwrite hentry).2
    exact iff_of_true hbytes (.inr ⟨rfl, hshown⟩)

/-- The outcomes of a run that has succeeded have one path each. -/
theorem outcomes_nodup (hready : (prepare settings source endpoint method).run session =
      (.ok (.ready feature artifacts), asked)) {writing : Written Markup.Fault}
    (hwrite : writeAllMerged (Run.overwritePolicy settings) settings.outputDirectory
      (Run.files artifacts) before asked = (writing, middle, between)) :
    (writing.outcomes.map Prod.fst).Nodup := by
  obtain ⟨hname, hpaths⟩ := ready_paths hready
  rw [(writeAllMerged_outcomes hwrite).1, files_paths, hpaths]
  exact (plannedPaths_nodup hname).sublist (List.take_sublist _ _)

/-- Without consent, what a run has left can be asked about again exactly if this is so for the files
that were created with a carriage return in them. -/
theorem showable_iff (hasks : settings.overwriteAll = false)
    (hready : (prepare settings source endpoint method).run session =
      (.ok (.ready feature artifacts), asked)) {writing : Written Markup.Fault}
    (hwrite : writeAllMerged (Run.overwritePolicy settings) settings.outputDirectory
      (Run.files artifacts) before asked = (writing, middle, between))
    (hdeclined : ∀ exchange ∈ asked.dialogue between, ∀ path, ¬ Consented exchange path)
    (hsettled : List.Forall₂ (fun file entry => Prod.fst entry = Prod.fst file ∧
      Settled middle (settings.outputDirectory.join (PathName.ofString (Prod.fst file)))
        (Prod.snd file) (Prod.snd entry)) (Run.files artifacts) writing.outcomes) :
    (∀ file ∈ Run.files artifacts,
        Conflicts middle (settings.outputDirectory.join (PathName.ofString file.1)) file.2 →
          IsShowable (settings.outputDirectory.join (PathName.ofString file.1))) ↔
      ∀ artifact ∈ artifacts, (artifact.path, Outcome.created) ∈ writing.outcomes →
        '\r' ∈ artifact.content.toList → Run.Asks settings artifact := by
  have hentries := List.Forall₂.flip hsettled
  constructor
  · -- A carriage return is not found again, so its file is in conflict.
    intro hshown artifact hartifact hcreated hreturn
    have hfile : (artifact.path, artifact.content) ∈ Run.files artifacts :=
      List.mem_map_of_mem hartifact
    obtain ⟨entry, hentry, hname, hends⟩ := exists_partner hentries hfile
    have hsame : entry = (artifact.path, .created) :=
      List.inj_on_of_nodup_map (outcomes_nodup hready hwrite) hentry hcreated hname
    have hconflict := (conflict_cases hasks hwrite hdeclined hentry hname hends).2
      (.inl ⟨by rw [hsame], hreturn⟩)
    exact hshown (artifact.path, artifact.content) hfile hconflict
  · intro hasked file hfile hconflict
    obtain ⟨artifact, hartifact, rfl⟩ := List.mem_map.1 hfile
    obtain ⟨entry, hentry, hname, hends⟩ := exists_partner hentries hfile
    rcases (conflict_cases hasks hwrite hdeclined hentry hname hends).1 hconflict with
      ⟨hcreated, hreturn⟩ | ⟨-, hshown⟩
    · refine hasked artifact hartifact ?_ hreturn
      have hsame : entry = (artifact.path, .created) := Prod.ext hname hcreated
      exact hsame ▸ hentry
    · exact hshown

section

variable (hfree : before.LinkFree) (hproject : settings.project = none)
  (hready : (prepare settings source endpoint method).run session =
    (.ok (.ready feature artifacts), asked))
  (hrun : (generateLayers settings source endpoint method).run before session =
    ((.ok report, middle), final))
  (hsuccess : report.success = true)
  (hagain : (prepare settings source endpoint method).run later =
    (.ok (.ready feature artifacts), confirmed))
  (hrerun : (generateLayers settings source endpoint method).run middle later =
    ((result, after), ended))
  (hdeclined : settings.overwriteAll = false →
    ∀ exchange ∈ session.dialogue final ++ later.dialogue ended, ∀ path,
      ¬ Consented exchange path)

include hfree hproject hready hrun hsuccess hagain hrerun hdeclined

/-- **A repeated run changes nothing.** It succeeds exactly if the settings replace all files, or the
operator can be asked about each file that was created with a carriage return in it. -/
theorem generateLayers_again_iff : FileTree.Same middle after ∧
    ((∃ report, result = .ok report ∧ report.success = true) ↔ settings.overwriteAll = true ∨
      ∀ artifact ∈ artifacts, (artifact.path, Outcome.created) ∈ report.outcomes →
        '\r' ∈ artifact.content.toList → Run.Asks settings artifact) := by
  have hkeeps := overwritePolicy_keepsFiles settings
  obtain ⟨hapart, -⟩ := ready_files hready
  rw [generateLayers_eq, hready] at hrun
  rw [generateLayers_eq, hagain] at hrerun
  dsimp only at hrun hrerun
  obtain ⟨writing, between, entries, hwrite, hends, -, hreported⟩ := commit_cases hproject hrun
  obtain ⟨rewriting, between', entries', hrewrite, hends', -, -⟩ := commit_cases hproject hrerun
  -- The first run came to its end, so every file of the plan is settled in the tree that it left.
  have hstop : writing.stop = none :=
    (commit_succeeds_iff hproject hwrite hrun).1 ⟨report, rfl, hsuccess⟩
  have hsettled := writeAllMerged_settled hkeeps hfree hapart hwrite hstop
  have hmiddle := (writeAllMerged_grows hkeeps hfree hapart.1 hwrite).linkFree hfree
  have hdown : ∀ file ∈ Run.files artifacts, LeadsDown file.1 :=
    fun file hfile => hapart.1 file.1 (List.mem_map_of_mem hfile)
  obtain ⟨hsame, hstops⟩ := writeAllMerged_again hmiddle hdown
    (allSettled_of_success hwrite hsettled) hrewrite fun hasks exchange hmem =>
      hdeclined hasks exchange (List.mem_append_right _
        (mem_dialogue_of_writing hasks hagain hrewrite hends' hmem))
  refine ⟨hsame, ?_⟩
  rw [commit_succeeds_iff hproject hrewrite hrerun, hstops, hreported report rfl]
  -- Asked again, the run fails only at a question that cannot be shown.
  cases hasks : settings.overwriteAll with
  | true => simp
  | false =>
    have hdeclinedFirst : ∀ exchange ∈ asked.dialogue between, ∀ path, ¬ Consented exchange path :=
      fun exchange hmem => hdeclined hasks exchange (List.mem_append_left _
        (mem_dialogue_of_writing hasks hready hwrite hends hmem))
    rw [showable_iff hasks hready hwrite hdeclinedFirst hsettled]

end

/-- Without lines there is no consent. -/
theorem not_consented_of_silence (hunread : session.unread = []) :
    ∀ exchange ∈ session.dialogue final, ∀ path, ¬ Consented exchange path := by
  rintro exchange hmem path ⟨shown, line, -, rfl, -⟩
  have hnone : ∀ texts : List String, ∀ exchange ∈ exchanges texts [], exchange.2 = none := by
    intro texts
    induction texts with
    | nil => exact fun exchange h => absurd h List.not_mem_nil
    | cons text rest ih => simpa [exchanges] using ih
  rw [Session.dialogue, hunread] at hmem
  cases hnone _ _ hmem

/-- Without an operator a run fails if its registry is in conflict and the question about it cannot be
shown. -/
theorem fails_of_conflict (hproject : settings.project = none)
    (hasks : settings.overwriteAll = false)
    (hready : (prepare settings source endpoint method).run session =
      (.ok (.ready feature artifacts), asked)) (hunread : asked.unread = [])
    {rest : List (String × String)} (hfiles : Run.files artifacts = (registryPath, content) :: rest)
    (hconflict : Conflicts before (settings.outputDirectory.join (PathName.ofString registryPath))
      content) {fault : Markup.Fault}
    (hfault : Markup.plain (Operator.overwriteQuestion
      (settings.outputDirectory.join (PathName.ofString registryPath))) = .error fault) :
    ¬ ∃ report, ((generateLayers settings source endpoint method).run before session).1.1 =
      .ok report ∧ report.success = true := by
  have hstops := mergeText_silent hasks (encounter_eq_conflict_iff.2 hconflict) hunread
  rw [hfault] at hstops
  rcases hrun : (generateLayers settings source endpoint method).run before session with
    ⟨⟨result, after⟩, final⟩
  rw [generateLayers_eq, hready] at hrun
  dsimp only at hrun
  obtain ⟨writing, between, entries, hwrite, -⟩ := commit_cases hproject hrun
  rw [commit_succeeds_iff hproject hwrite hrun]
  rw [hfiles] at hwrite
  rcases writeAllMerged_cons hwrite with
    ⟨stop, -, rfl⟩ | ⟨outcome, _, _, others, hmerge, -⟩
  · exact Option.some_ne_none stop
  · rw [hmerge] at hstops
    cases hstops

/-! ## Two runs -/

/-- A run into an empty tree can be repeated. -/
theorem users_run_again : ∃ report final result after ended,
    usersRun = ((.ok report, usersRun.1.2), final) ∧ report.success = true ∧
      (generateLayers silent (.text "{}") "http://h/users" "GET").run usersRun.1.2
        { unread := [] } = ((result, after), ended) ∧
      FileTree.Same usersRun.1.2 after ∧
        ∃ report, result = .ok report ∧ report.success = true := by
  obtain ⟨artifacts, asked, report, middle, final, hready, hrun, hsuccess, -⟩ := usersRun_succeeds
  have hfree : FileTree.LinkFree {} := FileTree.linkFree_of_holdsLink rfl
  rcases hrerun : (generateLayers silent (.text "{}") "http://h/users" "GET").run middle
    { unread := [] } with ⟨⟨result, after⟩, ended⟩
  have hmiddle : usersRun.1.2 = middle := by rw [hrun]
  rw [hmiddle]
  have hdeclined : silent.overwriteAll = false → ∀ exchange ∈
      Session.dialogue { unread := [] } final ++ Session.dialogue { unread := [] } ended, ∀ path,
        ¬ Consented exchange path := by
    intro _ exchange hmem
    exact (List.mem_append.1 hmem).elim (not_consented_of_silence rfl exchange)
      (not_consented_of_silence rfl exchange)
  obtain ⟨hsame, hsucceeds⟩ :=
    generateLayers_again_iff hfree rfl hready hrun hsuccess hready hrerun hdeclined
  refine ⟨report, final, result, after, ended, hrun, hsuccess, hrerun, hsame, hsucceeds.2 (.inr ?_)⟩
  intro artifact hartifact _ _
  obtain ⟨hname, hpaths⟩ := ready_paths hready
  exact Markup.plain_of_no_bracket (bracket_notMem_planned (by decide) (by decide) hname
    (hpaths ▸ List.mem_map_of_mem hartifact))

/-- Settings whose output directory is called like a tag that closes what is not open. -/
def bracketed : Settings where
  outputDirectory := ⟨"", ["out[", "b]"]⟩
  baseUrl := some "http://h"
  assumeYes := true

/-- There are no files in an empty tree. -/
theorem fileAt_empty (site : Location) : FileTree.fileAt {} site = none := by
  cases site <;> rfl

/-- The place of the registry below the output directory. -/
def bracketedRegistry : PathName :=
  bracketed.outputDirectory.join (PathName.ofString registryPath)

/-- The question about the registry cannot be shown. -/
theorem bracketedRegistry_fault :
    ∃ fault, Markup.plain (Operator.overwriteQuestion bracketedRegistry) = .error fault := by
  have hfails : (Markup.plain (Operator.overwriteQuestion bracketedRegistry)).isOk = false := by
    decide +kernel
  cases hshown : Markup.plain (Operator.overwriteQuestion bracketedRegistry) with
  | error fault => exact ⟨fault, rfl⟩
  | ok shown =>
    rw [hshown] at hfails
    cases hfails

set_option maxRecDepth 100000 in
/-- In an empty tree the registry is created, whatever its content is. -/
theorem bracketedRegistry_created (content : String) (session : Session) :
    ∃ after, mergeText (Run.overwritePolicy bracketed) bracketedRegistry content {} session =
      (.ok .created, after, session) :=
  ⟨_, rfl⟩

set_option maxRecDepth 100000 in
/-- There is room for the files in an empty tree. -/
theorem bracketed_room : HasRoom {} bracketed.outputDirectory (plannedPaths "a_b") :=
  hasRoom_of_missing (by decide) rfl (by decide +kernel) fun _ _ => rfl

theorem bracketed_described : (describeFeature bracketed "/a\rb" .get).run { unread := [] } =
    (.ok ⟨"a_b", "AB", "/a\rb", .get, some "http://h", ""⟩, { unread := [] }) := by
  rfl

/-- A run that has created a file with a carriage return fails when it is repeated. -/
theorem bracketed_run_fails_again : ∃ report middle final,
    FileTree.LinkFree {} ∧
      (generateLayers bracketed (.text "{}") "/a\rb" "GET").run {} { unread := [] } =
        ((.ok report, middle), final) ∧
      report.success = true ∧
        ¬ ∃ report', ((generateLayers bracketed (.text "{}") "/a\rb" "GET").run middle
          { unread := [] }).1.1 = .ok report' ∧ report'.success = true := by
  have hfree : FileTree.LinkFree {} := FileTree.linkFree_of_holdsLink rfl
  obtain ⟨artifacts, asked, hready, hunread⟩ := empty_ready bracketed_described rfl
  obtain ⟨report, middle, final, hrun, hsuccess, -⟩ := generateLayers_of_hasRoom rfl rfl hready
    hunread hfree bracketed_room fun path _ hthere => absurd (fileAt_empty _) hthere
  refine ⟨report, middle, final, hfree, hrun, hsuccess, ?_⟩
  obtain ⟨hapart, content, rest, hfiles⟩ := ready_files hready
  -- the registry is created with the carriage return of the path in it
  have hreturn : '\r' ∈ content.toList :=
    path_subset_registry hready (hfiles ▸ List.mem_cons_self) (by decide)
  rw [generateLayers_eq, hready] at hrun
  dsimp only at hrun
  obtain ⟨writing, between, entries, hwrite, -⟩ := commit_cases rfl hrun
  have hsettled := writeAllMerged_settled (overwritePolicy_keepsFiles bracketed) hfree hapart hwrite
    ((commit_succeeds_iff rfl hwrite hrun).1 ⟨report, rfl, hsuccess⟩)
  rw [hfiles] at hwrite hsettled
  have hconflict : Conflicts middle bracketedRegistry content := by
    obtain ⟨created, hcreated⟩ := bracketedRegistry_created content asked
    rcases writeAllMerged_cons hwrite with
      ⟨stop, hmerge, rfl⟩ | ⟨outcome, _, _, others, hmerge, -, rfl⟩
    · cases hcreated.symm.trans hmerge
    · cases hcreated.symm.trans hmerge
      obtain ⟨⟨-, bytes, hread, hbytes⟩, -⟩ := List.forall₂_cons.1 hsettled
      refine ⟨bytes, hread, ?_⟩
      rw [show bytes = content.toUTF8 from hbytes, contains_toUTF8_iff, Classical.not_not]
      exact hreturn
  obtain ⟨fault, hfault⟩ := bracketedRegistry_fault
  exact fails_of_conflict rfl rfl hready hunread hfiles hconflict hfault

end DartLayers
