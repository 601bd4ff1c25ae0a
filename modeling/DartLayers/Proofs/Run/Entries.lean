import DartLayers.Proofs.Run.Insets
import DartLayers.Proofs.Run.Registration

/-!
# DartLayers — the entries of a run

Whatever a run gives to the console while it is prepared and at its end is guarded. While it writes
files it also asks about those that are there, with the path put raw between the words of the
question.

* **`Run.ComesTo`** — a run comes to a question about a file that is there.
* **`utters_prepare`** — the entries of a preparation are guarded.
* **`generateLayers_raw`** — the entries of a run.
-/

namespace DartLayers

/-! ## Preparation -/

theorem utters_askBaseUrl : Utters LogEntry.IsGuarded (Operator.askBaseUrl defaultBaseUrl) := by
  refine Utters.bind (Utters.question (.own (.question List.mem_cons_self))) fun line => ?_
  cases line <;> exact Utters.pure _

theorem utters_askText {text : String} (h : LogEntry.IsGuarded (.ask text)) :
    Utters LogEntry.IsGuarded (Operator.askText text) :=
  Utters.bind (Utters.question h) fun _ => Utters.pure _

theorem utters_askAuthorization : Utters LogEntry.IsGuarded Operator.askAuthorization := by
  refine Utters.bind (Utters.confirm (.own (.question ?_)) (.own .rejection)) fun answer => ?_
  · simp [Operator.ownQuestions]
  · split
    · exact utters_askText (.own (.question (by simp [Operator.ownQuestions])))
    · exact Utters.pure _

theorem utters_describeFeature (settings : Settings) (endpoint : String) (method : HttpMethod) :
    Utters LogEntry.IsGuarded (describeFeature settings endpoint method).run := by
  have hresolve : Utters LogEntry.IsGuarded (resolveBaseUrl settings endpoint) := by
    rw [resolveBaseUrl]
    split
    · exact Utters.pure _
    · split
      · exact Utters.pure _
      · exact Utters.bind utters_askBaseUrl fun _ => Utters.pure _
  refine Utters.bindExcept (Utters.lift hresolve) fun base => ?_
  split
  · exact Utters.ok _
  · exact Utters.error _

theorem utters_buildRequest (settings : Settings) (feature : Feature) :
    Utters LogEntry.IsGuarded (buildRequest settings feature).run := by
  have hauthorization : Utters LogEntry.IsGuarded (chooseAuthorization settings) := by
    unfold chooseAuthorization
    split
    · exact Utters.pure _
    · exact utters_askAuthorization
  have hbody : Utters LogEntry.IsGuarded (chooseBody feature.method).run := by
    rw [chooseBody]
    split
    · exact Utters.bindExcept (Utters.lift (utters_askText (.own (.bodyQuestion _)))) fun _ =>
        Utters.result _
    · exact Utters.ok _
  rw [buildRequest]
  split
  · exact Utters.error _
  · exact Utters.bindExcept (Utters.lift hauthorization) fun _ =>
      Utters.bindExcept hbody fun _ => Utters.ok _

theorem utters_obtainPayload (settings : Settings) (source : SampleSource) (feature : Feature) :
    Utters LogEntry.IsGuarded (obtainPayload settings source feature).run := by
  have hnote : ∀ request timeout, Utters LogEntry.IsGuarded (noteRequest request timeout) :=
    fun request timeout session => .of_log rfl
  unfold obtainPayload
  split
  · exact Utters.result _
  · refine Utters.bindExcept ?_ fun _ => Utters.result _
    refine Utters.bindExcept (utters_buildRequest settings feature) fun request => ?_
    refine Utters.bindExcept (Utters.lift (hnote request _)) fun _ => ?_
    split
    · exact Utters.ok _
    · exact Utters.error _

/-- A planned path needs no escape. -/
theorem escape_plannedPath {name path : String} (hname : IsWord name)
    (hpath : path ∈ plannedPaths name) : Markup.escape path = path :=
  Markup.escape_of_notMem (bracket_notMem_path hname hpath)
    fun hmem => absurd (plain_of_mem_path hname hpath '\\' hmem) (by decide)

variable {settings : Settings} {source : SampleSource} {endpoint method : String}
  {feature : Feature} {artifacts : List Artifact} {before after : FileTree}
  {session prepared asked final : Session}

theorem utters_approve {planned : List Artifact} (hname : IsWord feature.name)
    (hpaths : planned.map Artifact.path = plannedPaths feature.name) :
    Utters LogEntry.IsGuarded (approve settings planned).run := by
  rw [approve]
  split
  · exact Utters.ok _
  · refine Utters.bindExcept (Utters.present ?_) fun _ => ?_
    · refine List.forall_mem_cons.2 ⟨.own (.heading _), fun entry hentry => ?_⟩
      rw [List.map_map] at hentry
      obtain ⟨artifact, hartifact, rfl⟩ := List.mem_map.1 hentry
      have hplanned := escape_plannedPath hname (hpaths ▸ List.mem_map_of_mem hartifact)
      show LogEntry.IsGuarded (Operator.plannedEntry artifact.layer artifact.path)
      rw [← hplanned]
      exact .planned _ _
    · refine Utters.bindExcept (Utters.lift (Utters.confirm ?_ (.own .rejection))) fun _ =>
        Utters.ok _
      exact .own (.question (by simp [Operator.ownQuestions]))

theorem utters_header {title : String}
    (h : title ∈ ["Fetching API response", "Writing files"]) :
    ∀ entry ∈ Log.header title, entry.IsGuarded :=
  fun _ hentry => .own (.header h hentry)

theorem utters_preparePayload (hname : IsWord feature.name) (payload : Payload) :
    Utters LogEntry.IsGuarded (preparePayload settings feature payload).run := by
  rw [preparePayload]
  split
  · rename_i planned hplanned
    refine Utters.bindExcept (utters_approve hname (planArtifacts_paths hplanned)).adapt
      fun approved => ?_
    split
    · refine Utters.bindExcept (Utters.lift (Utters.say (utters_header (by simp)))) fun _ => ?_
      split
      · exact Utters.ok _
      · exact Utters.error _
    · refine Utters.bindExcept (Utters.lift (Utters.say ?_)) fun _ => Utters.ok _
      simpa using LogEntry.IsGuarded.warning _
  · exact Utters.error _

theorem utters_failPreparation (feature : Option Feature) (message : String) :
    Utters LogEntry.IsGuarded (failPreparation feature message) :=
  Utters.bind (Utters.say (by simpa using LogEntry.IsGuarded.error _)) fun _ => Utters.pure _

theorem utters_prepareFeature (settings : Settings) (source : SampleSource)
    (hname : IsWord feature.name) :
    Utters LogEntry.IsGuarded (prepareFeature settings source feature).run := by
  refine Utters.bindExcept (Utters.lift (Utters.say ?_)) fun _ => ?_
  · exact List.forall_mem_cons.2 ⟨.info _, utters_header (by simp)⟩
  · refine Utters.bindExcept (utters_obtainPayload settings source feature).lift fun obtained => ?_
    split
    · exact utters_preparePayload hname _
    · exact Utters.error _
    · refine Utters.bindExcept (Utters.lift (Utters.say ?_)) fun _ =>
        (utters_failPreparation _ _).lift
      simpa using LogEntry.IsGuarded.warning _

/-- **The entries of a preparation are guarded.** -/
theorem utters_prepare (settings : Settings) (source : SampleSource) (endpoint method : String) :
    Utters LogEntry.IsGuarded (prepare settings source endpoint method).run := by
  rw [prepare]
  split
  · rename_i parsed hparsed
    intro session
    show session.Says _ ((describeFeature settings endpoint parsed >>= fun feature =>
      prepareFeature settings source feature).run session).2
    rw [talk_bind]
    rcases hdescribed : (describeFeature settings endpoint parsed).run session with
      ⟨fault | feature, described⟩
    · exact (utters_describeFeature settings endpoint parsed).of_eq hdescribed
    · exact ((utters_describeFeature settings endpoint parsed).of_eq hdescribed).trans
        (utters_prepareFeature settings source (isWord_of_described hdescribed) described)
  · exact (utters_failPreparation _ _).lift

/-! ## Questions about files -/

/-- While files are written, the operator is asked about one that is in conflict: the files before it
have been dealt with. The text is its path. -/
def Run.Meets (settings : Settings) (files : List (String × String)) (before : FileTree)
    (prepared : Session) (inset : Inset) (text : String) (asked : Session) : Prop :=
  settings.overwriteAll = false ∧ inset = .target ∧ ∃ done path content behind outcomes middle,
    files = done ++ (path, content) :: behind ∧
      writeAllMerged (Run.overwritePolicy settings) settings.outputDirectory done before prepared =
          (⟨outcomes, none⟩, middle, asked) ∧
        encounter (ε := Markup.Fault) middle
            (settings.outputDirectory.join (PathName.ofString path)) content = .ok .conflict ∧
          text = (settings.outputDirectory.join (PathName.ofString path)).text

/-- A run comes to a question about a file that is there. -/
def Run.ComesTo (settings : Settings) (source : SampleSource) (endpoint method : String)
    (before : FileTree) (session : Session) (inset : Inset) (text : String) (asked : Session) :
    Prop :=
  ∃ feature artifacts prepared,
    (prepare settings source endpoint method).run session =
        (.ok (.ready feature artifacts), prepared) ∧
      Run.Meets settings (Run.files artifacts) before prepared inset text asked

/-- Entries while a text may be shown raw: guarded ones, and those that show it so. -/
def OrRaw (comes : Inset → String → Session → Prop) (entry : LogEntry) : Prop :=
  entry.IsGuarded ∨ ∃ inset text before, comes inset text before ∧ inset.entry text = .ok entry

variable {files rest : List (String × String)} {path content : String} {tree middle : FileTree}
  {settled : Session} {inset : Inset} {text : String} {written : Written Markup.Fault}

/-- The entry for a question that can be shown. -/
theorem entry_target {target : PathName} {shown : String}
    (h : Markup.plain (Operator.overwriteQuestion target) = .ok shown) :
    Inset.target.entry target.text = .ok (.ask (Session.confirmText shown false)) := by
  rw [Inset.entry, Inset.markup_target, h]
  rfl

/-- A confirmation starts with its question. -/
theorem exists_confirm_log (text : String) (default : Bool) (session : Session) :
    ∃ entries, (Session.confirm text default session).2.log =
      session.log ++ .ask (Session.confirmText text default) :: entries := by
  have hlog : (Session.confirm text default session).2.log = session.log ++
      (Session.confirmFrom (Session.confirmText text default) default session.unread).2.2 := rfl
  rw [hlog]
  cases session.unread with
  | nil => exact ⟨[], rfl⟩
  | cons line rest =>
    rw [Session.confirmFrom]
    split
    · exact ⟨[], rfl⟩
    · exact ⟨_, rfl⟩

/-- A conflict is settled with the question about the path, put raw, if there is anything to ask. -/
theorem settle_entries (target : PathName) (tree : FileTree) (session : Session) :
    session.Says (fun entry => entry.IsGuarded ∨
        settings.overwriteAll = false ∧ Inset.target.entry target.text = .ok entry)
      ((Run.overwritePolicy settings).settle target tree session).2.2 := by
  cases hasks : settings.overwriteAll with
  | true =>
    simp only [Run.overwritePolicy, hasks, if_true]
    exact .refl session
  | false =>
    rw [settle_eq hasks, confirmOverwrite_run]
    cases hshown : Markup.plain (Operator.overwriteQuestion target) with
    | error fault => exact .refl session
    | ok shown =>
      exact (Utters.confirm (.inr ⟨rfl, entry_target hshown⟩) (.inl (.own .rejection))) session

/-- The next entry is the question about the path, put raw, or there is none. -/
theorem settle_log (hasks : settings.overwriteAll = false) (target : PathName) (tree : FileTree)
    (session : Session) :
    (∀ entry, Inset.target.entry target.text = .ok entry → session.log ++ [entry] <+:
      ((Run.overwritePolicy settings).settle target tree session).2.2.log) ∧
    ∀ fault, Inset.target.entry target.text = .error fault →
      ∃ fault, (Run.overwritePolicy settings).settle target tree session =
        (.error fault, tree, session) := by
  rw [settle_eq hasks, confirmOverwrite_run]
  cases hshown : Markup.plain (Operator.overwriteQuestion target) with
  | error fault =>
    refine ⟨fun entry hentry => ?_, fun _ _ => ⟨fault, rfl⟩⟩
    rw [Inset.entry, Inset.markup_target, hshown] at hentry
    cases hentry
  | ok shown =>
    have hentry := entry_target hshown
    refine ⟨fun entry hother => ?_, fun fault hother => ?_⟩
    · obtain ⟨entries, hlog⟩ := exists_confirm_log shown false session
      cases hentry.symm.trans hother
      dsimp only
      rw [hlog]
      exact ⟨entries, by simp⟩
    · cases hentry.symm.trans hother

/-- A conflict is settled by the policy, and the session is what that leaves. -/
theorem settleConflict_session {ε σ : Type} (policy : WritePolicy ε σ) (target : PathName)
    (content : String) (tree : FileTree) (state : σ) :
    (settleConflict policy target content tree state).2.2 =
      (policy.settle target tree state).2.2 := by
  rw [settleConflict]
  rcases policy.settle target tree state with ⟨fault | reply, left, settled⟩
  · rfl
  · dsimp only
    split
    · split <;> rfl
    · rfl

/-- A conflict is all that a file is asked about. -/
theorem mergeText_entries {target : PathName} {result : Except (WriteStop Markup.Fault) Outcome}
    (h : mergeText (Run.overwritePolicy settings) target content tree session =
      (result, after, final)) :
    session.Says (fun entry => entry.IsGuarded ∨ settings.overwriteAll = false ∧
      encounter (ε := Markup.Fault) tree target content = .ok .conflict ∧
        Inset.target.entry target.text = .ok entry) final := by
  have hsaid : ∀ {answer left}, Conflicts tree target content →
      (Run.overwritePolicy settings).settle target tree session = (answer, left, final) →
        session.Says (fun entry => entry.IsGuarded ∨ settings.overwriteAll = false ∧
          encounter (ε := Markup.Fault) tree target content = .ok .conflict ∧
            Inset.target.entry target.text = .ok entry) final := by
    intro answer left hconflict hsettle
    have hentries : session.Says _ ((Run.overwritePolicy settings).settle target tree session).2.2 :=
      settle_entries target tree session
    rw [hsettle] at hentries
    refine hentries.mono fun entry => .imp_right fun hentry => ?_
    exact ⟨hentry.1, encounter_eq_conflict_iff.2 hconflict, hentry.2⟩
  cases mergeText_cases h with
  | stopped | created | uncreated | unchanged => exact .refl session
  | failed _ _ _ hconflict hsettle | skipped _ _ _ hconflict hsettle
  | unwritten _ _ _ hconflict hsettle => exact hsaid hconflict hsettle
  | overwritten _ _ _ hconflict hsettle => exact hsaid hconflict hsettle

namespace Run.Meets

/-- The first file is asked about if it is in conflict. -/
theorem head (hasks : settings.overwriteAll = false)
    (hconflict : encounter (ε := Markup.Fault) tree
      (settings.outputDirectory.join (PathName.ofString path)) content = .ok .conflict) :
    Run.Meets settings ((path, content) :: rest) tree session .target
      (settings.outputDirectory.join (PathName.ofString path)).text session :=
  ⟨hasks, rfl, [], path, content, rest, [], tree, rfl, rfl, hconflict, rfl⟩

/-- Later files are asked about when those before them have been dealt with. -/
theorem cons {outcome : Outcome}
    (hmerge : mergeText (Run.overwritePolicy settings)
      (settings.outputDirectory.join (PathName.ofString path)) content tree session =
        (.ok outcome, middle, settled))
    (h : Run.Meets settings rest middle ((Run.overwritePolicy settings).announce outcome
      (settings.outputDirectory.join (PathName.ofString path)) settled) inset text asked) :
    Run.Meets settings ((path, content) :: rest) tree session inset text asked := by
  obtain ⟨hasks, hinset, done, other, more, behind, outcomes, left, rfl, hdone, hconflict, htext⟩ := h
  refine ⟨hasks, hinset, (path, content) :: done, other, more, behind, (path, outcome) :: outcomes,
    left, rfl, ?_, hconflict, htext⟩
  rw [writeAllMerged_cons_eq, writeMerged, hmerge]
  dsimp only
  rw [hdone]

end Run.Meets

/-- **The entries of writing files** are guarded, or put the path of a file that is there raw. -/
theorem writeAllMerged_entries
    (h : writeAllMerged (Run.overwritePolicy settings) settings.outputDirectory files tree session =
      (written, after, final)) :
    session.Says (OrRaw (Run.Meets settings files tree session)) final := by
  induction files generalizing tree session written with
  | nil =>
    cases h
    exact .refl _
  | cons file rest ih =>
    obtain ⟨path, content⟩ := file
    -- What this file says is said with its own content at the head of the files.
    have hfirst : ∀ {result : Except (WriteStop Markup.Fault) Outcome} {middle settled},
        mergeText (Run.overwritePolicy settings)
            (settings.outputDirectory.join (PathName.ofString path)) content tree session =
          (result, middle, settled) →
        session.Says (OrRaw (Run.Meets settings ((path, content) :: rest) tree session)) settled := by
      intro result middle settled hmerge
      refine (mergeText_entries hmerge).mono fun entry => .imp_right ?_
      rintro ⟨hasks, hconflict, hentry⟩
      exact ⟨_, _, _, .head hasks hconflict, hentry⟩
    rcases writeAllMerged_cons h with
      ⟨stop, hmerge, rfl⟩ | ⟨outcome, middle, settled, others, hmerge, hrest, rfl⟩
    · exact hfirst hmerge
    · refine (hfirst hmerge).trans ((Session.Says.logged settled ?_).trans ((ih hrest).mono ?_))
      · rw [List.forall_mem_singleton]
        cases outcome
        · exact .inl (.success _)
        · exact .inl (.info _)
        · exact .inl (.success _)
        · exact .inl (.warning _)
      · refine fun entry => .imp_right ?_
        rintro ⟨inset, text, before, hmeets, hentry⟩
        exact ⟨inset, text, before, .cons hmerge hmeets, hentry⟩

/-- **Where the operator is asked about a file** the next entry puts its path raw, or the writing stops
there. -/
theorem writeAllMerged_shown (hmeets : Run.Meets settings files tree session inset text asked)
    (h : writeAllMerged (Run.overwritePolicy settings) settings.outputDirectory files tree session =
      (written, after, final)) :
    (∀ entry, inset.entry text = .ok entry → asked.log ++ [entry] <+: final.log) ∧
      ∀ fault, inset.entry text = .error fault →
        final = asked ∧ ∃ fault, written.stop = some (.policy fault) := by
  obtain ⟨hasks, rfl, done, path, content, behind, outcomes, middle, rfl, hdone, hconflict, rfl⟩ :=
    hmeets
  rw [writeAllMerged_append, hdone] at h
  dsimp only at h
  rcases hrest : writeAllMerged (Run.overwritePolicy settings) settings.outputDirectory
    ((path, content) :: behind) middle asked with ⟨others, ends, talked⟩
  rw [hrest] at h
  cases h
  obtain ⟨hshown, hunshown⟩ :=
    settle_log hasks (settings.outputDirectory.join (PathName.ofString path)) middle asked
  have hmerge : mergeText (Run.overwritePolicy settings)
      (settings.outputDirectory.join (PathName.ofString path)) content middle asked =
    settleConflict (Run.overwritePolicy settings)
      (settings.outputDirectory.join (PathName.ofString path)) content middle asked := by
    rw [mergeText, hconflict]
  constructor
  · -- The log only grows behind the question.
    intro entry hentry
    refine (hshown entry hentry).trans ?_
    rw [← settleConflict_session (Run.overwritePolicy settings) _ content, ← hmerge]
    rcases writeAllMerged_cons hrest with
      ⟨stop, hstopped, -⟩ | ⟨outcome, next, settled, later, hwritten, hlater, -⟩
    · rw [hstopped]
    · rw [hwritten]
      have hannounced : settled.log <+: ((Run.overwritePolicy settings).announce outcome
          (settings.outputDirectory.join (PathName.ofString path)) settled).log :=
        List.prefix_append _ _
      exact hannounced.trans (writeAllMerged_entries hlater).prefix_log
  · -- A question that cannot be shown is a stop, and nothing is logged behind it.
    intro fault hentry
    obtain ⟨trouble, hsettle⟩ := hunshown fault hentry
    rw [settleConflict, hsettle] at hmerge
    rw [writeAllMerged_cons_eq, writeMerged, hmerge] at hrest
    cases hrest
    exact ⟨rfl, trouble, rfl⟩

/-! ## The end of a run -/

/-- What is said about a manifest is guarded. -/
theorem isGuarded_of_registration :
    (∀ required added, ∀ entry ∈ Run.addedEntries required added, entry.IsGuarded) ∧
      ∀ fault entry, Run.updateFaultEntry fault = .ok entry → entry.IsGuarded := by
  constructor
  · intro required added entry hentry
    rw [Run.addedEntries] at hentry
    split at hentry
    · rw [List.mem_singleton.1 hentry]
      exact .info _
    · rcases List.mem_append.1 hentry with hname | hend
      · obtain ⟨name, -, rfl⟩ := List.mem_map.1 hname
        exact .info _
      · rw [List.mem_singleton.1 hend]
        exact .success _
  · intro fault entry hentry
    unfold Run.updateFaultEntry at hentry
    split at hentry <;> cases hentry
    · exact .warning _
    · exact .error _
    · exact .error _

theorem registerIfAsked_entries {added : Except Interruption (List String)}
    (h : (Run.registerIfAsked settings).run tree session = ((added, after), final)) :
    session.Says LogEntry.IsGuarded final := by
  rw [Run.registerIfAsked] at h
  split at h
  · cases h
    exact .refl _
  · rw [registerDependencies_eq] at h
    split at h
    · cases h
      exact .logged session (isGuarded_of_registration.1 _ _)
    · split at h
      · rename_i entry hentry
        cases h
        exact .logged session (by simpa using isGuarded_of_registration.2 _ _ hentry)
      · cases h
        exact .refl _

theorem isGuarded_of_outcomeTable (outcomes : List (String × Outcome)) {last : LogEntry}
    (h : last.IsGuarded) : ∀ entry ∈ Run.outcomeTable outcomes ++ [last], entry.IsGuarded := by
  intro entry hentry
  rcases List.mem_append.1 hentry with htable | hlast
  · exact .own (.outcomes htable)
  · rwa [List.mem_singleton.1 hlast]

theorem finish_entries {outcomes : List (String × Outcome)} {result : Except Interruption RunResult}
    (h : (Run.finish settings feature outcomes).run tree session = ((result, after), final)) :
    session.Says LogEntry.IsGuarded final := by
  rw [Run.finish, work_bind] at h
  rcases hregister : (Run.registerIfAsked settings).run tree session with
    ⟨⟨interruption | added, updated⟩, registered⟩
  · rw [hregister] at h
    cases h
    exact registerIfAsked_entries hregister
  · rw [hregister] at h
    cases h
    exact (registerIfAsked_entries hregister).trans
      (.logged registered (isGuarded_of_outcomeTable _ (.success _)))

/-- The commitment of files is their writing, and guarded entries behind it. If a question could not be
shown there are none, and the run is interrupted. -/
theorem commit_entries {result : Except Interruption RunResult}
    (h : (Run.commit settings feature artifacts).run before session = ((result, after), final)) :
    ∃ written left between,
      writeAllMerged (Run.overwritePolicy settings) settings.outputDirectory (Run.files artifacts)
          before session = (written, left, between) ∧
        between.Says LogEntry.IsGuarded final ∧
          ∀ fault, written.stop = some (.policy fault) →
            final = between ∧ result = .error (.markup fault) := by
  rw [commit_eq] at h
  split at h
  · rename_i hwrite
    exact ⟨_, _, _, hwrite, finish_entries h, fun _ hstop => by cases hstop⟩
  · rename_i hwrite
    cases h
    exact ⟨_, _, _, hwrite, .logged _ (isGuarded_of_outcomeTable _ (.error _)),
      fun _ hstop => by cases hstop⟩
  · rename_i hwrite
    cases h
    exact ⟨_, _, _, hwrite, .refl _, fun _ hstop => by cases hstop⟩
  · rename_i hwrite
    cases h
    exact ⟨_, _, _, hwrite, .refl _, fun _ hstop => by cases hstop; exact ⟨rfl, rfl⟩⟩

/-! ## Runs -/

/-- **A run puts the paths in its questions raw**, and all its other entries are guarded. -/
theorem generateLayers_raw (settings : Settings) (source : SampleSource) (endpoint method : String)
    (before : FileTree) (session : Session) :
    ShowsRaw (Run.ComesTo settings source endpoint method before session) session
      ((generateLayers settings source endpoint method).run before session).2 := by
  have hprepare : ∀ {result prepared},
      (prepare settings source endpoint method).run session = (result, prepared) →
        session.Says LogEntry.IsGuarded prepared :=
    fun h => (utters_prepare settings source endpoint method).of_eq h
  -- Insets are met in the writing only; the rest of a run shows guarded entries.
  by_cases hready : ∃ feature artifacts prepared,
      (prepare settings source endpoint method).run session =
        (.ok (.ready feature artifacts), prepared)
  · obtain ⟨feature, artifacts, prepared, hready⟩ := hready
    rcases hcommit : (Run.commit settings feature artifacts).run before prepared with
      ⟨⟨result, after⟩, final⟩
    have hrun : ((generateLayers settings source endpoint method).run before session).2 = final := by
      rw [generateLayers_eq, hready]
      exact congrArg Prod.snd hcommit
    obtain ⟨written, left, between, hwrite, hbehind, hstop⟩ := commit_entries hcommit
    have hmeets : ∀ {inset text asked},
        Run.ComesTo settings source endpoint method before session inset text asked →
          Run.Meets settings (Run.files artifacts) before prepared inset text asked := by
      rintro inset text asked ⟨_, _, _, hother, hmeets⟩
      cases hready.symm.trans hother
      exact hmeets
    rw [hrun]
    -- An inset is shown, or its fault ends the run, or an entry is guarded.
    refine ⟨fun inset text asked hcomes entry hentry => ?_,
      fun inset text asked hcomes fault hfault => ?_, ?_⟩
    · exact ((writeAllMerged_shown (hmeets hcomes) hwrite).1 entry hentry).trans hbehind.prefix_log
    · obtain ⟨hend, trouble, hpolicy⟩ := (writeAllMerged_shown (hmeets hcomes) hwrite).2 fault hfault
      rw [(hstop trouble hpolicy).1, hend]
    · refine ((hprepare hready).mono fun _ => .inl).trans
        (((writeAllMerged_entries hwrite).mono fun entry => .imp_right ?_).trans
          (hbehind.mono fun _ => .inl))
      rintro ⟨inset, text, asked, hcomes, hentry⟩
      exact ⟨inset, text, asked, ⟨feature, artifacts, prepared, hready, hcomes⟩, hentry⟩
  · have hnowhere : ∀ inset text asked,
        ¬ Run.ComesTo settings source endpoint method before session inset text asked := by
      rintro inset text asked ⟨feature, artifacts, prepared, hother, -⟩
      exact hready ⟨feature, artifacts, prepared, hother⟩
    refine ⟨fun _ _ _ hcomes => absurd hcomes (hnowhere _ _ _),
      fun _ _ _ hcomes => absurd hcomes (hnowhere _ _ _), ?_⟩
    rw [generateLayers_eq]
    split
    · rename_i hresult
      exact (hprepare hresult).mono fun _ => .inl
    · rename_i hresult
      exact (hprepare hresult).mono fun _ => .inl
    · rename_i hresult
      exact (hprepare hresult).mono fun _ => .inl
    · rename_i hresult
      exact absurd ⟨_, _, _, hresult⟩ hready

/-- A run that comes to a question that cannot be shown is interrupted. -/
theorem generateLayers_unshown {fault : Markup.Fault}
    (hcomes : Run.ComesTo settings source endpoint method before session inset text asked)
    (hfault : inset.entry text = .error fault) :
    ∃ trouble, ((generateLayers settings source endpoint method).run before session).1.1 =
      .error (.markup trouble) := by
  obtain ⟨feature, artifacts, prepared, hready, hmeets⟩ := hcomes
  rcases hcommit : (Run.commit settings feature artifacts).run before prepared with
    ⟨⟨result, after⟩, final⟩
  obtain ⟨written, left, between, hwrite, -, hstop⟩ := commit_entries hcommit
  obtain ⟨-, trouble, hpolicy⟩ := (writeAllMerged_shown hmeets hwrite).2 fault hfault
  refine ⟨trouble, ?_⟩
  rw [generateLayers_eq, hready]
  dsimp only
  rw [hcommit]
  exact (hstop trouble hpolicy).2

/-- The last characters of texts joined by others are those of the last one. -/
theorem exists_intercalate_concat (separator : List Char) (pieces : List (List Char))
    (last : List Char) : ∃ front, separator.intercalate (pieces ++ [last]) = front ++ last := by
  induction pieces with
  | nil => exact ⟨[], by simp⟩
  | cons piece rest ih =>
    cases rest with
    | nil => exact ⟨piece ++ separator, by simp⟩
    | cons next others =>
      obtain ⟨front, hfront⟩ := ih
      refine ⟨piece ++ separator ++ front, ?_⟩
      rw [List.cons_append] at hfront
      rw [List.cons_append, List.cons_append, List.intercalate_cons_cons, hfront]
      simp

/-- The path of a planned file does not end in a backslash. -/
theorem last_of_planned {name : String} (hname : IsWord name) (root : PathName) {path : String}
    (hpath : path ∈ plannedPaths name) :
    ∃ front last, (root.join (PathName.ofString path)).text.toList = front ++ [last] ∧
      last ≠ '\\' := by
  have hdown := (planned_apart hname).1 path hpath
  obtain ⟨parts, hparts, rfl⟩ := List.mem_map.1 hpath
  obtain ⟨hne, hsegments⟩ := plannedParts_isSegment hname parts hparts
  obtain ⟨others, file, rfl⟩ := (List.eq_nil_or_concat parts).resolve_left hne
  rw [List.concat_eq_append] at hdown hparts hsegments ⊢
  have hfile : file ∈ others ++ [file] := List.mem_append_right _ List.mem_cons_self
  have hsome : file.toList ≠ [] :=
    fun hnil => (hsegments file hfile).1.1 (String.toList_eq_nil_iff.1 hnil)
  obtain ⟨begun, last, hlast⟩ := (List.eq_nil_or_concat file.toList).resolve_left hsome
  rw [List.concat_eq_append] at hlast
  obtain ⟨front, hfront⟩ :=
    exists_intercalate_concat ['/'] ((root.parts ++ others).map String.toList) file.toList
  rw [hdown.join_eq, pathParts_planned hname hparts, PathName.text, if_neg (by simp)]
  refine ⟨root.root.toList ++ front ++ begun, last, ?_, ?_⟩
  · have hslash : "/".toList = ['/'] := rfl
    rw [String.toList_append, String.toList_intercalate, hslash, ← List.append_assoc, List.map_append,
      List.map_singleton, hfront, hlast]
    simp
  · rintro rfl
    have hplain := plannedParts_isPlain hname _ hparts file hfile '\\' (by rw [hlast]; simp)
    revert hplain
    decide

/-- **The paths that a run asks about** do not end in a backslash. -/
theorem last_of_comesTo (h : Run.ComesTo settings source endpoint method before session inset text
      asked) :
    ∃ front last, text.toList = front ++ [last] ∧ last ≠ '\\' := by
  obtain ⟨feature, artifacts, prepared, hready, -, -, done, path, content, behind, -, -, hfiles, -, -,
    rfl⟩ := h
  obtain ⟨hname, hpaths⟩ := ready_paths hready
  refine last_of_planned hname settings.outputDirectory ?_
  have hmem : path ∈ (Run.files artifacts).map Prod.fst := by
    rw [hfiles]
    simp
  rw [Run.files, List.map_map] at hmem
  exact hpaths ▸ hmem

end DartLayers
