import DartLayers.Proofs.Markup.Plain
import DartLayers.Proofs.Run.Stages
import DartLayers.Proofs.Session.Consent

/-!
# DartLayers — runs without an operator

When the operator's lines have ended every conflict is skipped. Then it does not matter for the end of
a run what the files hold that are there: it succeeds if each of its files is there and can be read,
or can be created.

* **`admits`** — the files that are there can be read, and the others can be created.
* **`generateLayers_of_admits`** — without an operator such a run succeeds.
-/

namespace DartLayers

/-- Whether files can be dealt with one after the other: each of them is there and can be read, or is
created. What they hold plays no part. -/
def admits (root : PathName) : List (String × String) → FileTree → Bool
  | [], _ => true
  | (path, content) :: rest, tree =>
    match tree.isPresent (root.join (PathName.ofString path)) with
    | .error _ => false
    | .ok true =>
      (tree.readBytes (root.join (PathName.ofString path))).isOk && admits root rest tree
    | .ok false =>
      match tree.createText (root.join (PathName.ofString path)) content with
      | (tree, none) => admits root rest tree
      | (_, some _) => false

variable {settings : Settings} {source : SampleSource} {endpoint method : String}
  {feature : Feature} {artifacts : List Artifact} {before after : FileTree}
  {session asked : Session} {path : PathName} {content : String} {tree : FileTree}

/-- The question about a path has no bracket where the path has none. -/
theorem bracket_notMem_question (hroot : '[' ∉ path.root.toList)
    (hparts : ∀ part ∈ path.parts, '[' ∉ part.toList) :
    '[' ∉ (Operator.overwriteQuestion path).toList := by
  have htext : '[' ∉ path.text.toList := by
    rw [PathName.text]
    split
    · decide
    · rw [String.toList_append, List.mem_append, not_or]
      refine ⟨hroot, fun hmem => ?_⟩
      rw [String.toList_intercalate] at hmem
      rcases mem_intercalate hmem with hslash | ⟨piece, hpiece, hinside⟩
      · revert hslash
        decide
      · obtain ⟨part, hpart, rfl⟩ := List.mem_map.1 hpiece
        exact hparts part hpart hinside
  rw [Operator.overwriteQuestion, String.toList_append, String.toList_append, List.mem_append,
    List.mem_append, not_or, not_or]
  exact ⟨⟨by decide, htext⟩, by decide⟩

/-- An output directory without a bracket has no bracket in the questions about its files. -/
theorem bracket_notMem_planned {output : PathName} (hroot : '[' ∉ output.root.toList)
    (hparts : ∀ part ∈ output.parts, '[' ∉ part.toList) {name : String} (hname : IsWord name)
    {path : String} (hpath : path ∈ plannedPaths name) :
    '[' ∉ (Operator.overwriteQuestion (output.join (PathName.ofString path))).toList := by
  have hdown := (planned_apart hname).1 path hpath
  obtain ⟨parts, hplanned, rfl⟩ := List.mem_map.1 hpath
  rw [hdown.join_eq, pathParts_planned hname hplanned]
  refine bracket_notMem_question hroot fun part hpart => ?_
  rcases List.mem_append.1 hpart with houter | hinner
  · exact hparts part houter
  · exact (plannedParts_isPlain hname parts hplanned part hinner).bracket_notMem

section

variable (hasks : settings.overwriteAll = false)

include hasks

/-- Without an operator a file that is there and can be read is left alone. -/
theorem mergeText_present (hshown : '[' ∉ (Operator.overwriteQuestion path).toList)
    (hpresent : tree.isPresent path = .ok true) (hread : (tree.readBytes path).isOk = true)
    (hunread : session.unread = []) :
    ∃ outcome settled, mergeText (Run.overwritePolicy settings) path content tree session =
      (.ok outcome, tree, settled) ∧ settled.unread = [] := by
  cases hbytes : tree.readBytes path with
  | error refusal =>
    rw [hbytes] at hread
    cases hread
  | ok bytes =>
    have hencounter : encounter (ε := Markup.Fault) tree path content =
        .ok (if holdsContent content bytes then .present else .conflict) := by
      rw [encounter, hpresent]
      dsimp only
      rw [hbytes]
    rw [mergeText, hencounter]
    cases holdsContent content bytes with
    | true => exact ⟨.unchanged, session, rfl, hunread⟩
    | false =>
      obtain ⟨shown, hplain⟩ := Markup.plain_of_no_bracket hshown
      obtain ⟨settled, hsettle, hended⟩ := settle_of_shown hasks tree hplain hunread
      refine ⟨.skipped, settled, ?_, hended⟩
      simp only [Bool.false_eq_true, if_false, settleConflict, hsettle, consents]

/-- **Without an operator no file stops the others**, if all of them can be read or created. -/
theorem writeAllMerged_of_admits {root : PathName} {files : List (String × String)}
    (hshown : ∀ file ∈ files, '[' ∉
      (Operator.overwriteQuestion (root.join (PathName.ofString file.1))).toList)
    (hadmits : admits root files tree = true) (hunread : session.unread = []) :
    (writeAllMerged (Run.overwritePolicy settings) root files tree session).1.stop = none := by
  induction files generalizing tree session with
  | nil => rfl
  | cons file rest ih =>
    obtain ⟨path, content⟩ := file
    -- A file that is there is skipped or found, and one that is not is created.
    have hstep : ∃ outcome middle settled,
        mergeText (Run.overwritePolicy settings) (root.join (PathName.ofString path)) content tree
            session = (.ok outcome, middle, settled) ∧
          settled.unread = [] ∧ admits root rest middle = true := by
      unfold admits at hadmits
      split at hadmits
      · cases hadmits
      · rename_i hpresent
        rw [Bool.and_eq_true] at hadmits
        obtain ⟨outcome, settled, hmerge, hended⟩ :=
          mergeText_present hasks (hshown _ List.mem_cons_self) hpresent hadmits.1 hunread
        exact ⟨outcome, tree, settled, hmerge, hended, hadmits.2⟩
      · rename_i habsent
        split at hadmits
        · rename_i made hmade
          refine ⟨.created, made, session, ?_, hunread, hadmits⟩
          rw [mergeText, encounter, habsent]
          dsimp only
          rw [hmade]
        · cases hadmits
    obtain ⟨outcome, middle, settled, hmerge, hended, hrest⟩ := hstep
    rw [writeAllMerged_cons_eq, writeMerged, hmerge]
    exact ih (fun other hother => hshown other (List.mem_cons_of_mem _ hother)) hrest hended

/-- **Without an operator a run succeeds** if its files can be read or created, whatever it finds in
them. -/
theorem generateLayers_of_admits (hproject : settings.project = none)
    (hready : (prepare settings source endpoint method).run session =
      (.ok (.ready feature artifacts), asked))
    (hroot : '[' ∉ settings.outputDirectory.root.toList)
    (hparts : ∀ part ∈ settings.outputDirectory.parts, '[' ∉ part.toList)
    (hadmits : admits settings.outputDirectory (Run.files artifacts) before = true)
    (hunread : asked.unread = []) :
    ∃ report after final, (generateLayers settings source endpoint method).run before session =
      ((.ok report, after), final) ∧ report.success = true ∧ report.feature = some feature := by
  have hpaths : ∀ file ∈ Run.files artifacts, '[' ∉ (Operator.overwriteQuestion
      (settings.outputDirectory.join (PathName.ofString file.1))).toList := by
    intro file hfile
    obtain ⟨hname, hpaths⟩ := ready_paths hready
    obtain ⟨artifact, hartifact, rfl⟩ := List.mem_map.1 hfile
    exact bracket_notMem_planned hroot hparts hname (hpaths ▸ List.mem_map_of_mem hartifact)
  have hstop := writeAllMerged_of_admits hasks hpaths hadmits hunread
  rw [generateLayers_eq, hready]
  dsimp only
  rw [commit_eq]
  rcases hwrite : writeAllMerged (Run.overwritePolicy settings) settings.outputDirectory
    (Run.files artifacts) before asked with ⟨⟨outcomes, stop⟩, written, between⟩
  rw [hwrite] at hstop
  dsimp only at hstop
  subst hstop
  dsimp only
  rw [finish_eq hproject]
  exact ⟨_, _, _, rfl, rfl, rfl⟩

end

/-- Whether a run is prepared without an operator, and its files can be read or created. -/
def Run.admitted (settings : Settings) (source : SampleSource) (endpoint method : String)
    (before : FileTree) (session : Session) : Bool :=
  match (prepare settings source endpoint method).run session with
  | (.ok (.ready _ artifacts), asked) =>
    asked.unread.isEmpty && admits settings.outputDirectory (Run.files artifacts) before
  | _ => false

theorem ready_of_admitted (h : Run.admitted settings source endpoint method before session = true) :
    ∃ feature artifacts asked, (prepare settings source endpoint method).run session =
        (.ok (.ready feature artifacts), asked) ∧
      asked.unread = [] ∧ admits settings.outputDirectory (Run.files artifacts) before = true := by
  unfold Run.admitted at h
  split at h
  · rename_i feature artifacts asked hready
    rw [Bool.and_eq_true, List.isEmpty_iff] at h
    exact ⟨feature, artifacts, asked, hready, h⟩
  · cases h

end DartLayers
