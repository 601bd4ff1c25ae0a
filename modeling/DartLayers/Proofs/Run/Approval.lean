import DartLayers.Proofs.Run.Stages
import DartLayers.Proofs.Session.Dialogue

/-!
# DartLayers — the approval of a run

Before a run writes anything it asks whether to write the planned files, unless the settings say yes
to that. All its earlier questions are other ones, so files can only be ready if the dialogue so far
gives the answer yes.

* **`generationQuestion`** — the question.
* **`prepare_approved`** — files that are ready were approved.
* **`speaks_prepare`** — no question before the writing is about a file that is there.
-/

namespace DartLayers

/-- The question whether the planned files may be written. -/
def generationQuestion : String :=
  Session.confirmText "Generate these files?" true

/-- Questions about other things than the planned files and the files that are there. They are told
apart by their first letters. -/
abbrev AsksOther (text : String) : Prop :=
  text.toList.head? ≠ some 'G' ∧ text.toList.head? ≠ some 'F'

/-! ## Questions before the approval -/

theorem AsksOther.ne_generation {text : String} (h : AsksOther text) :
    text ≠ generationQuestion := by
  rintro rfl
  exact h.1 (by decide)

theorem speaks_askBaseUrl (default : String) : Speaks AsksOther (Operator.askBaseUrl default) := by
  refine Speaks.bind (Speaks.question ?_) fun line => ?_
  · exact ⟨by simp, by simp⟩
  · cases line <;> exact Speaks.pure _

theorem speaks_askText {asks : String → Prop} {text : String} (h : asks text) :
    Speaks asks (Operator.askText text) :=
  Speaks.bind (Speaks.question h) fun _ => Speaks.pure _

theorem speaks_askAuthorization : Speaks AsksOther Operator.askAuthorization := by
  refine Speaks.bind (Speaks.confirm (by decide)) fun answer => ?_
  split
  · exact speaks_askText (by decide)
  · exact Speaks.pure _

theorem speaks_askSampleBody (method : HttpMethod) :
    Speaks AsksOther (Operator.askSampleBody method) :=
  speaks_askText ⟨by simp, by simp⟩

theorem speaks_resolveBaseUrl (settings : Settings) (endpoint : String) :
    Speaks AsksOther (resolveBaseUrl settings endpoint) := by
  rw [resolveBaseUrl]
  split
  · exact Speaks.pure _
  · split
    · exact Speaks.pure _
    · exact Speaks.bind (speaks_askBaseUrl _) fun _ => Speaks.pure _

theorem speaks_describeFeature (settings : Settings) (endpoint : String) (method : HttpMethod) :
    Speaks AsksOther (describeFeature settings endpoint method).run := by
  refine Speaks.bindExcept (Speaks.lift (speaks_resolveBaseUrl settings endpoint)) fun base => ?_
  split
  · exact Speaks.ok _
  · exact Speaks.error _

theorem speaks_chooseAuthorization (settings : Settings) :
    Speaks AsksOther (chooseAuthorization settings) := by
  unfold chooseAuthorization
  split
  · exact Speaks.pure _
  · exact speaks_askAuthorization

theorem speaks_chooseBody (method : HttpMethod) : Speaks AsksOther (chooseBody method).run := by
  rw [chooseBody]
  split
  · exact Speaks.bindExcept (Speaks.lift (speaks_askSampleBody method)) fun _ => Speaks.result _
  · exact Speaks.ok _

theorem speaks_buildRequest (settings : Settings) (feature : Feature) :
    Speaks AsksOther (buildRequest settings feature).run := by
  rw [buildRequest]
  split
  · exact Speaks.error _
  · exact Speaks.bindExcept (Speaks.lift (speaks_chooseAuthorization settings)) fun _ =>
      Speaks.bindExcept (speaks_chooseBody _) fun _ => Speaks.ok _

/-- A note of a request is nothing that is said. -/
theorem speaks_noteRequest {asks : String → Prop} (request : SampleRequest) (timeout : Int) :
    Speaks asks (noteRequest request timeout) :=
  fun _ => ⟨[], ⟨(List.append_nil _).symm, rfl⟩, by simp [Log.asked]⟩

theorem speaks_fetchSample (settings : Settings) (reply : Reply) (feature : Feature) :
    Speaks AsksOther (fetchSample settings reply feature).run := by
  refine Speaks.bindExcept (speaks_buildRequest settings feature) fun request => ?_
  refine Speaks.bindExcept (Speaks.lift (speaks_noteRequest request _)) fun _ => ?_
  split
  · exact Speaks.ok _
  · exact Speaks.error _

theorem speaks_obtainPayload (settings : Settings) (source : SampleSource) (feature : Feature) :
    Speaks AsksOther (obtainPayload settings source feature).run := by
  unfold obtainPayload
  split
  · exact Speaks.result _
  · exact Speaks.bindExcept (speaks_fetchSample _ _ _) fun _ => Speaks.result _

/-! ## The approval -/

/-- Entries without questions are given to the console without questions. -/
theorem speaks_present {asks : String → Prop} {entries : Log} (h : Log.asked entries = []) :
    Speaks asks (Session.present entries).run := by
  intro session
  induction entries generalizing session with
  | nil => exact ⟨[], .refl session, by simp [Log.asked]⟩
  | cons entry rest ih =>
    have hentry : Log.asked [entry] = [] ∧ Log.asked rest = [] := by
      rw [← List.append_eq_nil_iff, ← Log.asked_append]
      exact h
    show ∃ entries, session.Talks ((Session.present (entry :: rest)).run session).2 entries ∧ _
    rw [present_cons]
    split
    · obtain ⟨others, hothers, hasked⟩ := ih hentry.2 (session.logged [entry])
      refine ⟨[entry] ++ others, .trans ⟨rfl, by rw [hentry.1]; rfl⟩ hothers, fun text htext => ?_⟩
      rw [Log.asked_append, hentry.1] at htext
      exact hasked text htext
    · exact ⟨[], .refl session, by simp [Log.asked]⟩

/-- Showing the planned files asks nothing. -/
theorem asked_planned (planned : List (Layer × String)) (heading : String) :
    Log.asked (.print heading :: planned.map fun (layer, path) =>
      Operator.plannedEntry layer path) = [] := by
  rw [Log.asked, List.filterMap_eq_nil_iff]
  intro entry hentry
  rcases List.mem_cons.1 hentry with rfl | hplanned
  · rfl
  · obtain ⟨file, -, rfl⟩ := List.mem_map.1 hplanned
    rfl

variable {settings : Settings} {source : SampleSource} {endpoint method : String}
  {feature : Feature} {artifacts : List Artifact} {session asked : Session}

/-- Planned files are only approved by an answer. -/
theorem confirmGeneration_eq_true {planned : List (Layer × String)}
    (h : (Operator.confirmGeneration planned).run session = (.ok true, asked)) :
    ∃ entries, session.Talks asked entries ∧
      answerOf generationQuestion true (session.dialogue asked) = some true := by
  rw [Operator.confirmGeneration] at h
  obtain ⟨_, shown, hshown, h⟩ := exists_ok_of_talk h
  obtain ⟨answer, confirmed, hconfirm, h⟩ := exists_ok_of_talk h
  have hpresent : ∀ heading, Speaks AsksOther (Session.present (.print heading ::
      planned.map fun (layer, path) => Operator.plannedEntry layer path)).run :=
    fun heading => speaks_present (asked_planned planned heading)
  obtain ⟨first, hfirst, hothers⟩ := (hpresent _).of_eq hshown
  obtain ⟨second, hsecond, -, hanswer⟩ := confirm_spec "Generate these files?" true shown
  rw [ok_of_lift hconfirm] at hsecond hanswer
  have hyes : answer = some true ∧ confirmed = asked := by
    cases answer with
    | none => cases h
    | some value =>
      cases h
      exact ⟨rfl, rfl⟩
  obtain ⟨rfl, rfl⟩ := hyes
  refine ⟨first ++ second, hfirst.trans hsecond, ?_⟩
  rw [hfirst.dialogue_trans hsecond, hfirst.dialogue_eq, answerOf_append_of_none
    (answerOf_of_ne fun text htext => (hothers text htext).ne_generation)]
  exact hanswer.symm

/-- The files of an approved plan are only ready if it was approved by an answer. -/
theorem renderApproved_approved (hasks : settings.assumeYes = false) {planned : List Artifact}
    {described : Feature}
    (h : (renderApproved settings described planned).run session =
      (.ok (.ready feature artifacts), asked)) :
    ∃ entries, session.Talks asked entries ∧
      answerOf generationQuestion true (session.dialogue asked) = some true := by
  rw [renderApproved] at h
  obtain ⟨approved, answered, happrove, h⟩ := exists_ok_of_talk h
  have hanswered := ok_of_adapt happrove
  cases approved with
  | false =>
    simp only [Bool.false_eq_true, if_false] at h
    obtain ⟨_, said, _, h⟩ := exists_ok_of_talk h
    cases h
  | true =>
    simp only [if_true] at h
    obtain ⟨_, said, hsaid, h⟩ := exists_ok_of_talk h
    have hend : said = asked := by
      split at h
      · cases h
        rfl
      · cases h
    -- The answer was given before the header was said, and the header asks nothing.
    subst hend
    rw [approve, hasks] at hanswered
    obtain ⟨first, hfirst, hyes⟩ := confirmGeneration_eq_true hanswered
    have hheader : Speaks AsksOther (Session.say (Log.header "Writing files")) := Speaks.say rfl
    obtain ⟨second, hsecond, -⟩ := hheader.lift.of_eq hsaid
    refine ⟨first ++ second, hfirst.trans hsecond, ?_⟩
    rw [hfirst.dialogue_trans hsecond]
    exact answerOf_append_of_some hyes

/-- **Files that are ready were approved**, if the settings do not say yes to everything. -/
theorem prepare_approved (hasks : settings.assumeYes = false)
    (h : (prepare settings source endpoint method).run session =
      (.ok (.ready feature artifacts), asked)) :
    ∃ entries, session.Talks asked entries ∧
      answerOf generationQuestion true (session.dialogue asked) = some true := by
  rw [prepare] at h
  split at h
  · obtain ⟨described, first, hdescribed, h⟩ := exists_ok_of_talk h
    rw [prepareFeature] at h
    obtain ⟨_, second, hsaid, h⟩ := exists_ok_of_talk h
    obtain ⟨obtained, third, hobtained, h⟩ := exists_ok_of_talk h
    obtain ⟨entries₁, htalks₁, hasked₁⟩ := (speaks_describeFeature _ _ _).of_eq hdescribed
    have hopening : Speaks AsksOther (Session.say
        (featureEntry described :: Log.header "Fetching API response")) := Speaks.say rfl
    obtain ⟨entries₂, htalks₂, hasked₂⟩ := hopening.lift.of_eq hsaid
    obtain ⟨entries₃, htalks₃, hasked₃⟩ := (speaks_obtainPayload _ _ _).lift.of_eq hobtained
    have htalks := (htalks₁.trans htalks₂).trans htalks₃
    -- Up to the approval only other questions were asked, so the first answer to it is the one that
    -- counts.
    have hothers : ∀ text ∈ Log.asked (entries₁ ++ entries₂ ++ entries₃), AsksOther text := by
      intro text htext
      rw [Log.asked_append, Log.asked_append, List.mem_append, List.mem_append] at htext
      exact htext.elim (fun hmem => hmem.elim (hasked₁ text) (hasked₂ text)) (hasked₃ text)
    split at h
    · rw [preparePayload] at h
      split at h
      · obtain ⟨entries₄, htalks₄, hyes⟩ := renderApproved_approved hasks h
        refine ⟨_, htalks.trans htalks₄, ?_⟩
        rw [htalks.dialogue_trans htalks₄, htalks.dialogue_eq,
          answerOf_append_of_none
            (answerOf_of_ne fun text htext => (hothers text htext).ne_generation)]
        exact hyes
      · cases h
    · cases h
    · obtain ⟨_, said, _, h⟩ := exists_ok_of_talk h
      cases h
  · cases h

/-! ## Questions of the preparation -/

/-- Questions of a preparation: none is about a file that is there. -/
abbrev AsksBefore (text : String) : Prop :=
  text.toList.head? ≠ some 'F'

theorem speaks_confirmGeneration (planned : List (Layer × String)) :
    Speaks AsksBefore (Operator.confirmGeneration planned).run := by
  refine Speaks.bindExcept (speaks_present (asked_planned planned _)) fun _ => ?_
  exact Speaks.bindExcept (Speaks.lift (Speaks.confirm (by decide))) fun _ => Speaks.ok _

theorem speaks_renderApproved (settings : Settings) (feature : Feature)
    (planned : List Artifact) : Speaks AsksBefore (renderApproved settings feature planned).run := by
  have happrove : Speaks AsksBefore (approve settings planned).run := by
    rw [approve]
    split
    · exact Speaks.ok _
    · exact speaks_confirmGeneration _
  refine Speaks.bindExcept happrove.adapt fun approved => ?_
  split
  · refine Speaks.bindExcept (Speaks.lift (Speaks.say rfl)) fun _ => ?_
    split
    · exact Speaks.ok _
    · exact Speaks.error _
  · exact Speaks.bindExcept (Speaks.lift (Speaks.say rfl)) fun _ => Speaks.ok _

theorem speaks_failPreparation {asks : String → Prop} (feature : Option Feature)
    (message : String) : Speaks asks (failPreparation feature message) :=
  Speaks.bind (Speaks.say rfl) fun _ => Speaks.pure _

theorem speaks_prepareFeature (settings : Settings) (source : SampleSource) (feature : Feature) :
    Speaks AsksBefore (prepareFeature settings source feature).run := by
  refine Speaks.bindExcept (Speaks.lift (Speaks.say rfl)) fun _ => ?_
  have hpayload := (speaks_obtainPayload settings source feature).mono fun _ h => h.2
  refine Speaks.bindExcept hpayload.lift fun obtained => ?_
  split
  · rw [preparePayload]
    split
    · exact speaks_renderApproved _ _ _
    · exact Speaks.error _
  · exact Speaks.error _
  · refine Speaks.bindExcept (Speaks.lift (Speaks.say rfl)) fun _ => ?_
    exact (speaks_failPreparation _ _).lift

/-- **A preparation asks about no file that is there.** -/
theorem speaks_prepare (settings : Settings) (source : SampleSource) (endpoint method : String) :
    Speaks AsksBefore (prepare settings source endpoint method).run := by
  rw [prepare]
  split
  · rename_i parsed hparsed
    have hdescribe := (speaks_describeFeature settings endpoint parsed).mono fun _ h => h.2
    exact Speaks.bindExcept hdescribe fun _ => speaks_prepareFeature _ _ _
  · exact (speaks_failPreparation _ _).lift

end DartLayers
