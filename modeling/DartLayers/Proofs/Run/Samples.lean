import DartLayers.Proofs.Json.LongInteger
import DartLayers.Proofs.Run.Outcomes

/-!
# DartLayers — the sample of a run

A run that has the text of its sample reads the payload from it. A text that is no JSON and a value
that is no payload are reported, and the run fails with that report and without having looked at a
file. One fault is not reported: a whole number with too many digits ends the run without a report.

* **`Run.received?`** — where a run stands when it has the text of its sample.
* **`generateLayers_of_fault`**, **`generateLayers_of_longInteger`** — a run with a text that is no
  payload.
* **`isReported_iff`** — a text is read or reported exactly without a number that is too long.
-/

namespace DartLayers

/-- The text of a feature's sample. -/
def obtainText (settings : Settings) (source : SampleSource) (feature : Feature) :
    ExceptT SampleFault Talk String :=
  match source with
  | .text sample => return sample
  | .endpoint reply => fetchSample settings reply feature

/-- Where a run stands when it has the text of its sample. -/
structure Run.Received where
  feature : Feature
  text : String
  session : Session

/-- Where a run stands when it has the text of its sample, if it gets one. -/
def Run.received? (settings : Settings) (source : SampleSource) (endpoint method : String)
    (session : Session) : Option Run.Received :=
  match HttpMethod.parse? method with
  | none => none
  | some parsed =>
    match (describeFeature settings endpoint parsed).run session with
    | (.error _, _) => none
    | (.ok feature, described) =>
      match (obtainText settings source feature).run
          (described.logged (featureEntry feature :: Log.header "Fetching API response")) with
      | (.error _, _) => none
      | (.ok text, session) => some ⟨feature, text, session⟩

variable {settings : Settings} {source : SampleSource} {endpoint method : String}
  {before : FileTree} {session final : Session} {received : Run.Received}

/-! ## The payload -/

/-- A payload is read from the text of the sample. -/
theorem obtainPayload_run {feature : Feature} {text : String}
    (h : (obtainText settings source feature).run session = (.ok text, final)) :
    (obtainPayload settings source feature).run session = (parseSample text, final) := by
  cases source with
  | text sample =>
    cases h
    rfl
  | endpoint reply =>
    rw [obtainText] at h
    rw [obtainPayload, talk_bind, h]
    rfl

/-- How a preparation goes on with what was read from the text of its sample. -/
def settleSample (settings : Settings) (feature : Feature) :
    Except SampleFault Payload → ExceptT Interruption Talk Preparation
  | .ok payload => preparePayload settings feature payload
  | .error (.longInteger digits) => throw (.longInteger digits)
  | .error (.fetch fault) => do
    Session.say [.warning "Please make sure the endpoint is accessible and the method is correct."]
    failPreparation (some feature) ("Could not fetch API response: " ++ fault.message)

/-- **A preparation goes on with what is read from the text of its sample.** -/
theorem prepare_of_received
    (h : Run.received? settings source endpoint method session = some received) :
    (prepare settings source endpoint method).run session =
      (settleSample settings received.feature (parseSample received.text)).run received.session := by
  unfold Run.received? at h
  split at h
  · cases h
  · rename_i parsed hmethod
    split at h
    · cases h
    · rename_i feature described hfeature
      split at h
      · cases h
      · rename_i text obtained htext
        cases h
        -- Saying something and lifting a payload cannot fail, so the stages follow each other.
        have hsay : (liftM (Session.say (featureEntry feature ::
            Log.header "Fetching API response")) : ExceptT Interruption Talk Unit).run described =
          (.ok (), described.logged (featureEntry feature ::
            Log.header "Fetching API response")) := rfl
        have hlift (said : Session) : (liftM (obtainPayload settings source feature).run :
            ExceptT Interruption Talk (Except SampleFault Payload)).run said =
          (.ok ((obtainPayload settings source feature).run said).1,
            ((obtainPayload settings source feature).run said).2) := rfl
        rw [prepare, hmethod]
        dsimp only
        rw [talk_bind, hfeature]
        dsimp only
        rw [prepareFeature, talk_bind, hsay]
        dsimp only
        rw [talk_bind, hlift, obtainPayload_run htext]
        dsimp only
        cases parseSample text with
        | ok payload => rfl
        | error fault => cases fault <;> rfl

/-! ## Texts that are no payload -/

/-- What a run says about a text that is no payload. -/
def fetchMessage (fault : FetchFault) : String :=
  "Could not fetch API response: " ++ fault.message

/-- **A reported fault of the sample makes the run fail**, before it has looked at a file. -/
theorem generateLayers_of_fault {fault : FetchFault}
    (h : Run.received? settings source endpoint method session = some received)
    (hfault : parseSample received.text = .error (.fetch fault)) :
    (generateLayers settings source endpoint method).run before session =
      ((.ok { feature := some received.feature, error := some (fetchMessage fault) }, before),
        (received.session.logged [.warning
          "Please make sure the endpoint is accessible and the method is correct."]).logged
            [.error (fetchMessage fault)]) := by
  rw [generateLayers_eq, prepare_of_received h, hfault]
  rfl

/-- **A number that is too long ends the run** without a report, before it has looked at a file. -/
theorem generateLayers_of_longInteger {digits : Nat}
    (h : Run.received? settings source endpoint method session = some received)
    (hlong : parseSample received.text = .error (.longInteger digits)) :
    (generateLayers settings source endpoint method).run before session =
      ((.error (.longInteger digits), before), received.session) := by
  rw [generateLayers_eq, prepare_of_received h, hlong]
  rfl

/-- A text is a payload, or every run that receives it reports why it is none: the run fails, with no
file written or looked at. -/
def IsReported (text : String) : Prop :=
  (∃ payload, parseSample text = .ok payload) ∨
    ∃ fault, parseSample text = .error (.fetch fault) ∧
      ∀ {settings source endpoint method session received},
        Run.received? settings source endpoint method session = some received →
          received.text = text → ∀ before, ∃ final,
            (generateLayers settings source endpoint method).run before session =
              ((.ok { feature := some received.feature, error := some (fetchMessage fault) }, before),
                final)

theorem parseSample_longInteger_iff {text : String} {digits : Nat} :
    parseSample text = .error (.longInteger digits) ↔
      Document.HoldsLongInteger digits text.toList := by
  rw [← Document.readJson_longInteger_iff, parseSample]
  split
  · rename_i value hread
    cases value <;> simp [Payload.ofJson, hread]
  · simp_all
  · rename_i fault hfault hread
    simp only [hread, Except.error.injEq, reduceCtorEq, false_iff]
    exact hfault digits

/-- **A text is read or reported exactly if it holds no whole number with too many digits** where a
value is expected. -/
theorem isReported_iff (text : String) :
    IsReported text ↔ ∀ digits, ¬ Document.HoldsLongInteger digits text.toList := by
  simp only [← parseSample_longInteger_iff]
  constructor
  · rintro (⟨payload, hpayload⟩ | ⟨fault, hfault, -⟩) digits hlong
    · cases hpayload.symm.trans hlong
    · cases hfault.symm.trans hlong
  · intro hshort
    cases hparse : parseSample text with
    | ok payload => exact .inl ⟨payload, hparse⟩
    | error fault =>
      cases fault with
      | longInteger digits => exact absurd hparse (hshort digits)
      | fetch fault =>
        refine .inr ⟨fault, hparse, ?_⟩
        rintro settings source endpoint method session received h rfl before
        exact ⟨_, generateLayers_of_fault h hparse⟩

/-- A sample with a number of so many digits. -/
def countedSample (digits : Nat) : String :=
  String.ofList (['\x7b', '"', 'i', 'd', '"', ':'] ++ (List.replicate digits '1' ++ ['\x7d']))

theorem countedSample_holdsLongInteger {digits : Nat} (h : Text.maxIntegerDigits < digits) :
    Document.HoldsLongInteger digits (countedSample digits).toList := by
  have hwhole : Document.IsWholePart (List.replicate digits '1') := by
    obtain ⟨more, rfl⟩ : ∃ more, digits = more + 1 := ⟨digits - 1, by omega⟩
    refine ⟨⟨by simp, fun c hc => ?_⟩, by simp [List.replicate_succ]⟩
    rw [List.eq_of_mem_replicate hc]
    decide
  have hnumber := @Document.StartsLongInteger.mk false _ _ hwhole
    (by rwa [List.length_replicate]) (Document.IsDelimited.endsNumber
      (Document.isDelimited_cons (c := '\x7d') (by simp) [])).not_continuesNumber
  rw [List.length_replicate] at hnumber
  rw [countedSample, String.toList_ofList]
  exact ⟨rfl, hnumber⟩

/-- An endpoint with its own address is described without a question. -/
theorem exists_received (text : String) : ∃ received,
    Run.received? silent (.text text) "http://h/a" "GET" { unread := [] } = some received ∧
      received.text = text := by
  have hfeature : ((describeFeature silent "http://h/a" .get).run { unread := [] }).1.isOk = true := by
    decide +kernel
  rcases hdescribe : (describeFeature silent "http://h/a" .get).run { unread := [] } with
    ⟨fault | feature, described⟩
  · rw [hdescribe] at hfeature
    cases hfeature
  · rw [Run.received?, parse_get]
    dsimp only
    rw [hdescribe]
    exact ⟨_, rfl, rfl⟩

/-- With one digit too many a sample ends a run without a report. -/
theorem long_sample_interrupts :
    ¬ IsReported (countedSample 4301) ∧ ∃ received final,
      Run.received? silent (.text (countedSample 4301)) "http://h/a" "GET" { unread := [] } =
          some received ∧ received.text = countedSample 4301 ∧
        (generateLayers silent (.text (countedSample 4301)) "http://h/a" "GET").run (.below [] [])
            { unread := [] } =
          ((.error (.longInteger 4301), .below [] []), final) := by
  have hlong := parseSample_longInteger_iff.2
    (countedSample_holdsLongInteger (by decide : Text.maxIntegerDigits < 4301))
  obtain ⟨received, hreceived, htext⟩ := exists_received (countedSample 4301)
  rw [← htext] at hlong
  refine ⟨?_, received, _, hreceived, htext, generateLayers_of_longInteger hreceived hlong⟩
  rw [htext] at hlong
  rintro (⟨payload, hpayload⟩ | ⟨fault, hfault, -⟩)
  · cases hpayload.symm.trans hlong
  · cases hfault.symm.trans hlong

end DartLayers
