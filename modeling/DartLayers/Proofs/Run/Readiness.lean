import DartLayers.Proofs.Markup.Plain
import DartLayers.Proofs.Plan.Independence
import DartLayers.Proofs.Run.Approval

/-!
# DartLayers — when a run is prepared

The console can show every plan, as the names in its paths have no brackets, and every plan can be
rendered. So once the endpoint is described and the sample read, it is only up to the operator's lines
whether the files are made ready, or to the settings if they say yes to that.

* **`approve_planned`** — the approval of a plan never fails.
* **`exists_ready`** — an approved run is prepared.
-/

namespace DartLayers

variable {settings : Settings} {endpoint method name : String} {feature : Feature}
  {session described : Session} {planned rendered : List Artifact} {rest : List String}

/-! ## Plans are shown -/

/-- A planned path is written with letters, digits, underscores, dots and slashes. -/
theorem plain_of_mem_path (hname : IsWord name) {path : String} (hpath : path ∈ plannedPaths name) :
    ∀ c ∈ path.toList, c = '/' ∨ c.isAlphanum ∨ c = '_' ∨ c = '.' := by
  obtain ⟨parts, hparts, rfl⟩ := List.mem_map.1 hpath
  intro c hc
  rw [String.toList_intercalate] at hc
  rcases mem_intercalate hc with hslash | ⟨piece, hpiece, hinside⟩
  · exact .inl (List.mem_singleton.1 hslash)
  · obtain ⟨part, hpart, rfl⟩ := List.mem_map.1 hpiece
    exact .inr (plannedParts_isPlain hname parts hparts part hpart c hinside)

/-- There is no bracket in a planned path. -/
theorem bracket_notMem_path (hname : IsWord name) {path : String} (hpath : path ∈ plannedPaths name) :
    '[' ∉ path.toList :=
  fun hmem => absurd (plain_of_mem_path hname hpath '[' hmem) (by decide)

theorem check_plannedEntry (layer : Layer) {path : String} (h : '[' ∉ path.toList) :
    (Operator.plannedEntry layer path).check = .ok () := by
  have hlayer : ∀ c ∈ layer.name.toList, c ≠ '[' ∧ c ≠ '\\' := by
    cases layer <;> simp [Layer.name]
  refine Markup.check_dimmed (fun c hc => ?_) h
  rw [Operator.padded, String.toList_append, String.toList_ofList, List.mem_append] at hc
  rcases hc with hname | hblank
  · exact hlayer c hname
  · rw [List.eq_of_mem_replicate hblank]
    decide

/-- Entries that can be shown are shown. -/
theorem present_run {entries : Log} (h : ∀ entry ∈ entries, entry.check = .ok ())
    (session : Session) :
    (Session.present entries).run session = (.ok (), session.logged entries) := by
  induction entries generalizing session with
  | nil =>
    have hsame : session.logged [] = session := by simp [Session.logged]
    rw [hsame]
    rfl
  | cons entry rest ih =>
    rw [present_cons, h entry List.mem_cons_self]
    dsimp only
    rw [ih fun other hother => h other (List.mem_cons_of_mem _ hother)]
    simp [Session.logged]

/-! ## Plans are approved -/

/-- Whether a plan is approved when some lines are left to be read, and the lines that are left then. -/
def Settings.approval (settings : Settings) (unread : List String) : Bool × List String :=
  if settings.assumeYes then (true, unread)
  else
    let (rest, answer, _) := Session.confirmFrom generationQuestion true unread
    (answer.getD false, rest)

/-- **The approval of a plan never fails**: the plan is shown, and the lines decide. -/
theorem approve_planned (hname : IsWord name)
    (hpaths : planned.map Artifact.path = plannedPaths name) (session : Session) :
    ∃ asked, (approve settings planned).run session =
        (.ok (settings.approval session.unread).1, asked) ∧
      asked.unread = (settings.approval session.unread).2 := by
  rw [approve, Settings.approval]
  split
  · exact ⟨session, rfl, rfl⟩
  · have hlength : (planned.map fun artifact => (artifact.layer, artifact.path)).length = 15 := by
      have hall := congrArg List.length hpaths
      rw [List.length_map] at hall ⊢
      exact hall
    have hheading : Markup.check "[bold]15 files will be generated:[/bold]" = .ok () := by
      decide +kernel
    rw [Operator.confirmGeneration, hlength, talk_bind, present_run]
    · exact ⟨_, rfl, rfl⟩
    · intro entry hentry
      rcases List.mem_cons.1 hentry with rfl | hplanned
      · exact hheading
      · rw [List.map_map] at hplanned
        obtain ⟨artifact, hartifact, rfl⟩ := List.mem_map.1 hplanned
        exact check_plannedEntry _ (bracket_notMem_path hname (hpaths ▸ List.mem_map_of_mem hartifact))

/-! ## Runs are prepared -/

/-- A rendered plan is ready if it is approved. -/
theorem exists_renderApproved (hname : IsWord feature.name)
    (hpaths : planned.map Artifact.path = plannedPaths feature.name)
    (hrendered : Artifact.renderAll planned = .ok rendered)
    (happroved : settings.approval session.unread = (true, rest)) :
    ∃ asked, (renderApproved settings feature planned).run session =
      (.ok (.ready feature rendered), asked) ∧ asked.unread = rest := by
  obtain ⟨answered, hanswer, hunread⟩ := approve_planned hname hpaths session
  rw [happroved] at hanswer hunread
  have hadapt : ((approve settings planned).adapt Interruption.markup).run session =
      (.ok true, answered) := by
    have hsame : ((approve settings planned).adapt Interruption.markup).run session =
      (((approve settings planned).run session).1.mapError .markup,
        ((approve settings planned).run session).2) := rfl
    rw [hsame, hanswer]
    rfl
  refine ⟨answered.logged (Log.header "Writing files"), ?_, hunread⟩
  rw [renderApproved, talk_bind, hadapt, hrendered]
  rfl

/-- The files for the payload of a feature are ready if they are approved. -/
theorem exists_preparePayload (hname : IsWord feature.name) (payload : Payload)
    (happroved : settings.approval session.unread = (true, rest)) :
    ∃ rendered asked, (preparePayload settings feature payload).run session =
      (.ok (.ready feature rendered), asked) ∧ asked.unread = rest := by
  obtain ⟨planned, hplanned⟩ := payload.exists_planned feature settings.timeout
  obtain ⟨rendered, hrendered⟩ := exists_rendered hplanned
  rw [preparePayload, hplanned]
  exact ⟨rendered, exists_renderApproved hname (planArtifacts_paths hplanned) hrendered happroved⟩

/-- **An approved run is prepared**, if its endpoint is described and its sample is a payload. -/
theorem exists_ready {sample : String} {parsed : HttpMethod} {payload : Payload}
    (hmethod : HttpMethod.parse? method = some parsed)
    (hdescribed : (describeFeature settings endpoint parsed).run session =
      (.ok feature, described)) (hsample : parseSample sample = .ok payload)
    (happroved : settings.approval described.unread = (true, rest)) :
    ∃ artifacts asked, (prepare settings (.text sample) endpoint method).run session =
        (.ok (.ready feature artifacts), asked) ∧ asked.unread = rest := by
  have hname : IsWord feature.name := isWord_of_described hdescribed
  let opening := featureEntry feature :: Log.header "Fetching API response"
  obtain ⟨rendered, asked, hprepared, hunread⟩ :=
    @exists_preparePayload settings feature (described.logged opening) rest hname payload happroved
  have hsay : (liftM (Session.say opening) : ExceptT Interruption Talk Unit).run described =
    (.ok (), described.logged opening) := rfl
  have hobtain (said : Session) : (liftM (obtainPayload settings (.text sample) feature).run :
      ExceptT Interruption Talk (Except SampleFault Payload)).run said =
    (.ok (parseSample sample), said) := rfl
  refine ⟨rendered, asked, ?_, hunread⟩
  rw [prepare, hmethod]
  dsimp only
  rw [talk_bind, hdescribed]
  dsimp only
  rw [prepareFeature, talk_bind, hsay]
  dsimp only
  rw [talk_bind, hobtain, hsample]
  exact hprepared

end DartLayers
