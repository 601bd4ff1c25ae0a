import DartLayers.Proofs.Run.Approval
import DartLayers.Proofs.Run.Contents
import DartLayers.Proofs.Run.Silence
import DartLayers.Proofs.Session.Consent

/-!
# DartLayers — no consent by silence

A run whose settings consent to nothing changes files only as far as its operator consented. Without
a yes to the generation question nothing changes at all; a file that was there is replaced only after
a yes to the question that names it, each with a line of its own; and when the lines have ended
conflicts are skipped. There are two exceptions: an overlooked registry is replaced without a question,
and a question that cannot be shown ends the run instead of skipping the file. A file changes as a
whole or, where its writing is refused, not at all; the refusals are those of `Refusal`.

* **`Run.recorded`** — the outcomes that a run records, also one that is interrupted later.
* **`Consensual`** — a run changed nothing without consent.
* **`Run.MetInSilence`** — conflicts that come when the lines have ended.
* **`generateLayers_consensual_iff`** — a run is consensual exactly if it did not change an overlooked
  registry and met no question in silence that cannot be shown.
* **`generateLayers_consensual_of_names`** — an output directory of plain names makes sure of that.
-/

namespace DartLayers

/-- The outcomes that a run records while it writes its files; none if it does not come to that. A
run that is interrupted has recorded them, too, but does not report them. -/
def Run.recorded (settings : Settings) (source : SampleSource) (endpoint method : String)
    (before : FileTree) (session : Session) : List (String × Outcome) :=
  match (prepare settings source endpoint method).run session with
  | (.ok (.ready _ artifacts), asked) =>
    (writeAllMerged (Run.overwritePolicy settings) settings.outputDirectory (Run.files artifacts)
      before asked).1.outcomes
  | _ => []

/-- A run meets a file that is in conflict when the lines have ended: the files before it were dealt
with, and no line is left for the question about it. -/
def Run.MetInSilence (settings : Settings) (source : SampleSource) (endpoint method : String)
    (before : FileTree) (session : Session) (done : List Artifact) (artifact : Artifact) : Prop :=
  ∃ feature behind asked outcomes middle settled,
    (prepare settings source endpoint method).run session =
        (.ok (.ready feature (done ++ artifact :: behind)), asked) ∧
      writeAllMerged (Run.overwritePolicy settings) settings.outputDirectory (Run.files done)
          before asked = (⟨outcomes, none⟩, middle, settled) ∧
        settled.unread = [] ∧
          encounter (ε := Markup.Fault) middle
              (settings.outputDirectory.join (PathName.ofString artifact.path)) artifact.content =
            .ok .conflict

/-- A run changed nothing without consent. -/
structure Consensual (settings : Settings) (source : SampleSource) (endpoint method : String)
    (before after : FileTree) (session final : Session) (result : Except Interruption RunResult) :
    Prop where
  /-- The report, if there is one, lists what was recorded. -/
  reported : ∀ report, result = .ok report →
    report.outcomes = Run.recorded settings source endpoint method before session
  /-- Without a yes to the generation question nothing changes. -/
  approved : answerOf generationQuestion true (session.dialogue final) ≠ some true →
    after = before
  /-- A file that was there changes only if it is recorded as overwritten. -/
  replaced : ∀ location bytes, before.fileAt location = some bytes →
    after.fileAt location ≠ some bytes →
      ∃ path, (path, Outcome.overwritten) ∈
          Run.recorded settings source endpoint method before session ∧
        location = before.siteBelow settings.outputDirectory path
  /-- Every file that is recorded as overwritten has an exchange of its own that consents to it. -/
  consented : ∃ consents, consents.Sublist (session.dialogue final) ∧
    List.Forall₂
      (fun entry exchange => Consented exchange
        (settings.outputDirectory.join (PathName.ofString (Prod.fst entry))))
      ((Run.recorded settings source endpoint method before session).filter
        (·.2 = .overwritten)) consents
  /-- Every file that is in conflict when the lines have ended is skipped. -/
  silent : ∀ done artifact,
    Run.MetInSilence settings source endpoint method before session done artifact →
      (Run.recorded settings source endpoint method before session)[done.length]? =
        some (artifact.path, .skipped)

/-- The question about a file can be shown. -/
def Run.Asks (settings : Settings) (artifact : Artifact) : Prop :=
  ∃ shown, Markup.plain (Operator.overwriteQuestion
    (settings.outputDirectory.join (PathName.ofString artifact.path))) = .ok shown

variable {settings : Settings} {source : SampleSource} {endpoint method : String}
  {feature : Feature} {artifacts : List Artifact} {before after : FileTree}
  {session asked final : Session} {result : Except Interruption RunResult}

/-! ## The end of a run -/

/-- Words at the end of a run ask nothing. -/
theorem talks_of_logged {entries : Log} (h : Log.asked entries = []) (session : Session) :
    session.Talks (session.logged entries) entries :=
  ⟨rfl, by rw [h]; rfl⟩

/-- The table of the outcomes asks nothing, nor does a message behind it. -/
theorem asked_outcomeTable (outcomes : List (String × Outcome)) {entry : LogEntry}
    (h : Log.asked [entry] = []) : Log.asked (Run.outcomeTable outcomes ++ [entry]) = [] := by
  have htable : Log.asked (Run.outcomeTable outcomes) = [] := by
    rw [Run.outcomeTable]
    split <;> rfl
  rw [Log.asked_append, htable, h, List.append_nil]

/-- Without a project the commitment of files is their writing, and some words about it. -/
theorem commit_cases (hproject : settings.project = none)
    (h : (Run.commit settings feature artifacts).run before asked = ((result, after), final)) :
    ∃ written between entries,
      writeAllMerged (Run.overwritePolicy settings) settings.outputDirectory
          (Run.files artifacts) before asked = (written, after, between) ∧
        between.Talks final entries ∧ Log.asked entries = [] ∧
        ∀ report, result = .ok report → report.outcomes = written.outcomes := by
  rw [commit_eq] at h
  rcases hwrite : writeAllMerged (Run.overwritePolicy settings) settings.outputDirectory
    (Run.files artifacts) before asked with ⟨⟨outcomes, stop⟩, written, between⟩
  rw [hwrite] at h
  split at h
  · rename_i hsome
    cases hsome
    rw [finish_eq hproject] at h
    cases h
    have hquiet : Log.asked (Run.outcomeTable outcomes ++
        [.success ("Generated clean architecture for endpoint: " ++ feature.path)]) = [] :=
      asked_outcomeTable outcomes rfl
    refine ⟨_, between, _, rfl, talks_of_logged hquiet between, hquiet, fun report hreport => ?_⟩
    cases hreport
    rfl
  · -- Refused, the run says so and asks nothing more.
    rename_i path refusal _ _ hsome
    cases hsome
    cases h
    have hquiet : Log.asked (Run.outcomeTable outcomes ++
        [.error (refusedMessage path refusal)]) = [] := asked_outcomeTable outcomes rfl
    refine ⟨_, between, _, rfl, talks_of_logged hquiet between, hquiet, fun report hreport => ?_⟩
    cases hreport
    rfl
  · -- Interrupted, it says nothing.
    rename_i hsome
    cases hsome
    cases h
    exact ⟨_, final, [], rfl, .refl final, rfl, fun _ h => by cases h⟩
  · rename_i hsome
    cases hsome
    cases h
    exact ⟨_, final, [], rfl, .refl final, rfl, fun _ h => by cases h⟩

/-! ## Consensual runs -/

/-- A run that does not come to the writing leaves the files alone. -/
theorem generateLayers_unready
    (hunready : ∀ feature artifacts asked, (prepare settings source endpoint method).run session ≠
      (.ok (.ready feature artifacts), asked))
    (hrun : (generateLayers settings source endpoint method).run before session =
      ((result, after), final)) :
    after = before ∧ Run.recorded settings source endpoint method before session = [] ∧
      ∀ report, result = .ok report → report.outcomes = [] := by
  have hrecorded : Run.recorded settings source endpoint method before session = [] := by
    unfold Run.recorded
    split
    · rename_i hready
      exact absurd hready (hunready _ _ _)
    · rfl
  rw [generateLayers_eq] at hrun
  split at hrun
  · cases hrun
    exact ⟨rfl, hrecorded, fun _ h => by cases h⟩
  · cases hrun
    exact ⟨rfl, hrecorded, fun report hreport => by cases hreport; rfl⟩
  · cases hrun
    exact ⟨rfl, hrecorded, fun report hreport => by cases hreport; rfl⟩
  · rename_i hready
    exact absurd hready (hunready _ _ _)

/-- An overlooked registry that has changed is not recorded as overwritten. -/
theorem overlooked_not_overwritten {content : String} {rest : List (String × String)}
    {written : Written Markup.Fault} {between : Session} (hfree : before.LinkFree)
    (hapart : Apart (registryPath :: rest.map Prod.fst))
    (hwrite : writeAllMerged (Run.overwritePolicy settings) settings.outputDirectory
      ((registryPath, content) :: rest) before asked = (written, after, between))
    (hover : Overlooked before
      (settings.outputDirectory.join (PathName.ofString registryPath))) {path : String}
    (hmem : (path, Outcome.overwritten) ∈ written.outcomes) :
    before.siteBelow settings.outputDirectory registryPath ≠
      before.siteBelow settings.outputDirectory path := by
  intro hsite
  rcases writeAllMerged_reported (overwritePolicy_keepsFiles settings) hfree hapart hwrite with
    hnone | ⟨outcome, others, hsome, hfirst, hrest⟩
  · rw [hnone] at hmem
    cases hmem
  · rw [hsome] at hmem
    rcases List.mem_cons.1 hmem with hhead | hother
    · cases hhead
      rcases hfirst with ⟨hlooked, -⟩ | ⟨-, hcreated, -⟩
      · exact hlooked hover
      · cases hcreated
    · obtain ⟨file, hfile, hname, -⟩ := exists_partner hrest hother
      dsimp only at hname
      refine hapart.siteBelow_notMem before settings.outputDirectory ?_
      rw [hsite, hname]
      exact List.mem_map_of_mem (List.mem_map_of_mem (List.mem_of_mem_take hfile))

section

variable (hyes : settings.assumeYes = false) (hasks : settings.overwriteAll = false)
  (hproject : settings.project = none)

include hyes hasks hproject

/-- A run that comes to the writing is consensual, as far as files are replaced at all. -/
theorem consensual_of_ready (hfree : before.LinkFree)
    (hready : (prepare settings source endpoint method).run session =
      (.ok (.ready feature artifacts), asked))
    (hrun : (generateLayers settings source endpoint method).run before session =
      ((result, after), final)) :
    Consensual settings source endpoint method before after session final result ↔
      (Overlooked before (settings.outputDirectory.join (PathName.ofString registryPath)) →
          after.fileAt (before.siteBelow settings.outputDirectory registryPath) =
            before.fileAt (before.siteBelow settings.outputDirectory registryPath)) ∧
        ∀ done artifact,
          Run.MetInSilence settings source endpoint method before session done artifact →
            Run.Asks settings artifact := by
  obtain ⟨hapart, content, rest, hfiles⟩ := ready_files hready
  rw [generateLayers_eq, hready] at hrun
  obtain ⟨written, between, entries, hwrite, hends, hquiet, hreported⟩ :=
    commit_cases hproject hrun
  have hrecorded : Run.recorded settings source endpoint method before session =
      written.outcomes := by
    unfold Run.recorded
    rw [hready]
    dsimp only
    rw [hwrite]
  have hfirst := hwrite
  rw [hfiles] at hfirst hapart
  -- A conflict that is met in silence is skipped exactly if its question can be shown.
  have hskipped : ∀ {done artifact},
      Run.MetInSilence settings source endpoint method before session done artifact →
        ((Run.recorded settings source endpoint method before session)[done.length]? =
          some (artifact.path, .skipped) ↔ Run.Asks settings artifact) := by
    rintro done artifact ⟨feature', behind, asked', outcomes, middle, settled, hready', hdone,
      hunread, hconflict⟩
    rw [hready] at hready'
    cases hready'
    have hall : Run.files (done ++ artifact :: behind) = Run.files done ++
        (artifact.path, artifact.content) :: Run.files behind := by
      simp [Run.files]
    rw [hall] at hwrite
    have hsilent := writeAllMerged_silent hasks hdone hunread hconflict hwrite
    rw [hrecorded]
    rwa [Run.files, List.length_map] at hsilent
  constructor
  · -- What is replaced unasked has no line of its own.
    intro hconsensual
    refine ⟨fun hover => Classical.byContradiction fun hchanged => ?_, fun done artifact hmet =>
      (hskipped hmet).1 (hconsensual.silent done artifact hmet)⟩
    obtain ⟨bytes, hbytes⟩ := hover.2
    obtain ⟨path, hmem, hsite⟩ := hconsensual.replaced _ bytes hbytes
      (fun hkept => hchanged (hkept.trans hbytes.symm))
    rw [hrecorded] at hmem
    exact overlooked_not_overwritten hfree hapart hfirst hover hmem hsite
  · rintro ⟨hoverlooked, hasked⟩
    -- The lines of the run are those of its preparation, with the yes, and those of the writing.
    obtain ⟨before₁, htalks₁, hanswer⟩ := prepare_approved hyes hready
    obtain ⟨entries₂, htalks₂, consents, hsub, hconsents⟩ := writeAllMerged_consented hasks hwrite
    have hdialogue : session.dialogue final =
        session.dialogue asked ++ asked.dialogue between := by
      rw [htalks₁.dialogue_trans (htalks₂.trans hends), htalks₂.dialogue_trans hends,
        hends.dialogue_eq, hquiet]
      simp [exchanges]
    refine ⟨fun report hreport => (hreported report hreport).trans hrecorded.symm, ?_, ?_, ?_,
      fun done artifact hmet => (hskipped hmet).2 (hasked done artifact hmet)⟩
    · intro hno
      rw [hdialogue] at hno
      exact absurd (answerOf_append_of_some hanswer) hno
    · intro location bytes hbefore hchanged
      rw [hrecorded]
      rcases writeAllMerged_changed (overwritePolicy_keepsFiles settings) hfree hapart hfirst
        hbefore hchanged with hover | ⟨hsite, hover⟩
      · exact hover
      · rw [hsite] at hbefore hchanged
        exact absurd ((hoverlooked hover).trans hbefore) hchanged
    · rw [hrecorded, hdialogue]
      exact ⟨consents, hsub.trans (List.sublist_append_right _ _), hconsents⟩

omit hyes hasks hproject in
/-- A run that does not come to the writing is consensual. -/
theorem consensual_of_unready
    (hunready : ∀ feature artifacts asked, (prepare settings source endpoint method).run session ≠
      (.ok (.ready feature artifacts), asked))
    (hrun : (generateLayers settings source endpoint method).run before session =
      ((result, after), final)) :
    after = before ∧
      Consensual settings source endpoint method before after session final result := by
  obtain ⟨rfl, hrecorded, hreported⟩ := generateLayers_unready hunready hrun
  refine ⟨rfl, fun report hreport => (hreported report hreport).trans hrecorded.symm, fun _ => rfl,
    fun _ _ hbefore hchanged => absurd hbefore hchanged, ?_, ?_⟩
  · rw [hrecorded]
    exact ⟨[], List.nil_sublist _, .nil⟩
  · rintro done artifact ⟨feature, behind, asked, -, -, -, hready, -⟩
    exact absurd hready (hunready _ _ _)

omit hyes hasks in
/-- Below an output directory of names the registry is kept if it is overlooked, as nothing is written
then. -/
theorem overlooked_kept_of_names (hfree : before.LinkFree)
    (hnames : ∀ part ∈ settings.outputDirectory.parts, IsName part)
    (hready : (prepare settings source endpoint method).run session =
      (.ok (.ready feature artifacts), asked))
    (hrun : (generateLayers settings source endpoint method).run before session =
      ((result, after), final))
    (hover : Overlooked before
      (settings.outputDirectory.join (PathName.ofString registryPath))) (location : Location) :
    after.fileAt location = before.fileAt location := by
  obtain ⟨hapart, content, rest, hfiles⟩ := ready_files hready
  rw [generateLayers_eq, hready] at hrun
  obtain ⟨written, between, entries, hwrite, -⟩ := commit_cases hproject hrun
  rw [hfiles] at hwrite hapart
  have hdown := hapart.1 registryPath List.mem_cons_self
  have hnone : written.outcomes = [] := Classical.byContradiction fun hsome =>
    not_overlooked_of_names hfree hnames hdown
      (accepted_of_outcomes (overwritePolicy_keepsFiles settings) hfree hdown hwrite hsome) hover
  have hgrows := writeAllMerged_grows (overwritePolicy_keepsFiles settings) hfree hapart.1 hwrite
  rw [hnone] at hgrows
  exact hgrows.files location List.not_mem_nil

omit hyes hasks hproject in
/-- The questions about files in an output directory without brackets can be shown. -/
theorem asks_of_no_bracket (hroot : '[' ∉ settings.outputDirectory.root.toList)
    (hparts : ∀ part ∈ settings.outputDirectory.parts, '[' ∉ part.toList)
    {done : List Artifact} {artifact : Artifact}
    (hmet : Run.MetInSilence settings source endpoint method before session done artifact) :
    Run.Asks settings artifact := by
  obtain ⟨feature, behind, asked, -, -, -, hready, -⟩ := hmet
  obtain ⟨hname, hpaths⟩ := ready_paths hready
  refine Markup.plain_of_no_bracket (bracket_notMem_planned hroot hparts hname ?_)
  rw [← hpaths]
  exact List.mem_map_of_mem (List.mem_append_right _ List.mem_cons_self)

/-- **Into an output directory of names without brackets** every run is consensual. -/
theorem generateLayers_consensual_of_names (hfree : before.LinkFree)
    (hroot : '[' ∉ settings.outputDirectory.root.toList)
    (hnames : ∀ part ∈ settings.outputDirectory.parts, IsName part ∧ '[' ∉ part.toList)
    (hrun : (generateLayers settings source endpoint method).run before session =
      ((result, after), final)) :
    Consensual settings source endpoint method before after session final result := by
  by_cases hready : ∃ feature artifacts asked,
      (prepare settings source endpoint method).run session =
        (.ok (.ready feature artifacts), asked)
  · obtain ⟨feature, artifacts, asked, hready⟩ := hready
    refine (consensual_of_ready hyes hasks hproject hfree hready hrun).2
      ⟨fun hover => ?_, fun done artifact hmet => ?_⟩
    · exact overlooked_kept_of_names hproject hfree (fun part hpart => (hnames part hpart).1) hready
        hrun hover _
    · exact asks_of_no_bracket hroot (fun part hpart => (hnames part hpart).2) hmet
  · exact (consensual_of_unready (fun feature artifacts asked h =>
      hready ⟨feature, artifacts, asked, h⟩) hrun).2

/-- **No consent by silence.** A run is consensual exactly if it did not change an overlooked registry
and every question that it met in silence can be shown. -/
theorem generateLayers_consensual_iff (hfree : before.LinkFree)
    (hrun : (generateLayers settings source endpoint method).run before session =
      ((result, after), final)) :
    Consensual settings source endpoint method before after session final result ↔
      (Overlooked before (settings.outputDirectory.join (PathName.ofString registryPath)) →
          after.fileAt (before.siteBelow settings.outputDirectory registryPath) =
            before.fileAt (before.siteBelow settings.outputDirectory registryPath)) ∧
        ∀ done artifact,
          Run.MetInSilence settings source endpoint method before session done artifact →
            Run.Asks settings artifact := by
  by_cases hready : ∃ feature artifacts asked,
      (prepare settings source endpoint method).run session =
        (.ok (.ready feature artifacts), asked)
  · obtain ⟨feature, artifacts, asked, hready⟩ := hready
    exact consensual_of_ready hyes hasks hproject hfree hready hrun
  · have hunready : ∀ feature artifacts asked,
        (prepare settings source endpoint method).run session ≠
          (.ok (.ready feature artifacts), asked) :=
      fun feature artifacts asked h => hready ⟨feature, artifacts, asked, h⟩
    obtain ⟨rfl, hconsensual⟩ := consensual_of_unready hunready hrun
    refine ⟨fun _ => ⟨fun _ => rfl, ?_⟩, fun _ => hconsensual⟩
    rintro done artifact ⟨feature, behind, asked, -, -, -, hready, -⟩
    exact absurd hready (hunready _ _ _)

end

/-- Settings whose output directory is the working directory. -/
def besideEdits : Settings where
  outputDirectory := ⟨"", []⟩

/-- A run beside edited files is consensual. -/
theorem besideEdits_run_consensual : ∃ result after final,
    (generateLayers besideEdits (.text "{}") "http://h/users" "GET").run editedTree
        { unread := ["y"] } = ((result, after), final) ∧
      Consensual besideEdits (.text "{}") "http://h/users" "GET" editedTree after
        { unread := ["y"] } final result := by
  rcases hrun : (generateLayers besideEdits (.text "{}") "http://h/users" "GET").run editedTree
    { unread := ["y"] } with ⟨⟨result, after⟩, final⟩
  have hfree : editedTree.LinkFree := FileTree.linkFree_of_holdsLink rfl
  refine ⟨result, after, final, rfl,
    (generateLayers_consensual_iff rfl rfl rfl hfree hrun).2 ⟨fun hover => ?_, ?_⟩⟩
  · have hpresent : editedTree.isPresent (besideEdits.outputDirectory.join
        (PathName.ofString registryPath)) = .ok true := by decide +kernel
    rw [hover.1] at hpresent
    cases hpresent
  · exact fun done artifact => asks_of_no_bracket (by decide) (by decide)

/-- A run on a detour changes the registry, for which nobody was asked. -/
theorem detour_run_not_consensual : ∃ result after final, editedTree.LinkFree ∧
    (generateLayers detour (.text "{}") "http://h/users" "GET").run editedTree
        { unread := ["y"] } = ((result, after), final) ∧
      ¬ Consensual detour (.text "{}") "http://h/users" "GET" editedTree after
        { unread := ["y"] } final result := by
  obtain ⟨report, after, final, hrun, hlisted⟩ := exists_report_of_listed
    (fun hnil => List.cons_ne_nil _ _ (listed_detour.symm.trans hnil))
  have hfree : editedTree.LinkFree := FileTree.linkFree_of_holdsLink rfl
  have hmem : (registryPath, Outcome.created) ∈ report.outcomes := by
    rw [hlisted, listed_detour]
    exact List.mem_singleton_self _
  obtain ⟨feature, artifacts, asked, hready⟩ := ready_of_outcomes hrun (List.ne_nil_of_mem hmem)
  refine ⟨.ok report, after, final, hfree, hrun, fun hconsensual => ?_⟩
  -- The registry is not empty any more.
  obtain ⟨content, hfile, hafter, -⟩ := generateLayers_fileAt hready hfree hrun hmem
  have hkept := ((consensual_of_ready rfl rfl rfl hfree hready hrun).1 hconsensual).1 ⟨?_, ?_⟩
  · have hempty : content = "" := by
      rw [hafter] at hkept
      exact String.toByteArray_inj.1 (Option.some.inj hkept)
    have hdeclares := ready_registry hready hfile
    rw [hempty] at hdeclares
    cases hdeclares
  · decide +kernel
  · exact ⟨ByteArray.empty, rfl⟩

end DartLayers
