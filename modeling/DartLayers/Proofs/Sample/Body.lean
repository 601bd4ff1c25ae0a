import DartLayers.Proofs.Json.LongInteger
import DartLayers.Proofs.Json.Null
import DartLayers.Proofs.Run.Approval

/-!
# DartLayers — the body of a sample request

For the two methods that take a body the operator is asked for one, after the authorization is
settled. A line that is not blank is read as JSON, and the value is what the request carries; a text
that is not JSON is reported before anything is sent. Two texts are treated otherwise. Null is kept
like a body that was not typed, so a request for it carries none; and a whole number with too many
digits is no fault that is reported.

* **`Session.typed?`** — what the operator typed for a question.
* **`fetchSample_run`** — an exchange in terms of the typed body.
* **`SendsTypedBody`** — a request that carries what was typed.
* **`sendsTypedBody_iff`** — the texts for which it does.
-/

namespace DartLayers

/-! ## What was typed -/

/-- The question for the body of a request. -/
def bodyQuestion (method : HttpMethod) : String :=
  "Sample JSON body for the " ++ method.name ++ " request (Enter to send none): "

/-- What the operator typed for a question that was asked between two sessions: the line without the
blanks around it. A blank line is nothing, and so is one that was not read because the lines had
ended. -/
def Session.typed? (before after : Session) (question : String) : Option String :=
  (((before.dialogue after).lookup question).join.map Text.trim).filter (· ≠ "")

/-- The body that a request carries. -/
def SampleRequest.carried? (request : SampleRequest) : Option Json :=
  match request.body with
  | .null => none
  | value => some value

/-- One request was sent for a feature, and it carries a body or none. -/
def SendsOnce (feature : Feature) (before after : Session) (body : Option Json) : Prop :=
  ∃ sent, after.requests = before.requests ++ [sent] ∧ feature.fullUrl = some sent.request.url ∧
    sent.request.method = feature.method ∧ sent.request.carried? = body

/-! ## Talks that send nothing -/

/-- A talk sends no request. -/
def SendsNothing {α : Type} (talk : Talk α) : Prop :=
  ∀ session : Session, (talk session).2.requests = session.requests

namespace SendsNothing

theorem pure {α : Type} (value : α) : SendsNothing (Pure.pure value : Talk α) :=
  fun _ => rfl

theorem bind {α β : Type} {talk : Talk α} {next : α → Talk β} (h : SendsNothing talk)
    (hnext : ∀ value, SendsNothing (next value)) : SendsNothing (talk >>= next) :=
  fun session => (hnext (talk session).1 (talk session).2).trans (h session)

theorem question (text : String) : SendsNothing (Session.question text) := by
  intro session
  rw [Session.question]
  split <;> rfl

theorem confirm (text : String) (default : Bool) : SendsNothing (Session.confirm text default) :=
  fun _ => rfl

theorem askText (text : String) : SendsNothing (Operator.askText text) :=
  (question text).bind fun _ => pure _

theorem chooseAuthorization (settings : Settings) :
    SendsNothing (DartLayers.chooseAuthorization settings) := by
  unfold DartLayers.chooseAuthorization
  split
  · exact pure _
  · refine (confirm _ _).bind fun answer => ?_
    split
    · exact askText _
    · exact pure _

end SendsNothing

/-- The questions for the authorization start otherwise than the one for the body. -/
theorem speaks_authorization (settings : Settings) :
    Speaks (fun text => text.toList.head? ≠ some 'S') (chooseAuthorization settings) := by
  unfold chooseAuthorization
  split
  · exact Speaks.pure _
  · refine Speaks.bind (Speaks.confirm (by decide)) fun answer => ?_
    split
    · exact speaks_askText (by decide)
    · exact Speaks.pure _

theorem head?_bodyQuestion (method : HttpMethod) :
    (bodyQuestion method).toList.head? = some 'S' := by
  cases method <;> decide +kernel

/-! ## The exchange -/

variable {settings : Settings} {reply : Reply} {feature : Feature} {session : Session} {url : String}

/-- The body is settled by a question that is asked only of the methods that take one. -/
def askBody (method : HttpMethod) : Talk (Option String) :=
  if method.takesBody then Operator.askSampleBody method else return none

/-- An exchange settles the authorization and the body, and sends what the body is read as. -/
theorem fetchSample_run (reply : Reply) (hurl : feature.fullUrl = some url) {authorization : Option String}
    {authorized answered : Session} {typed : Option String}
    (hauthorization : (chooseAuthorization settings).run session = (authorization, authorized))
    (hbody : (askBody feature.method).run authorized = (typed, answered)) :
    (fetchSample settings reply feature).run session =
      match readBody typed with
      | .error fault => (.error fault, answered)
      | .ok body =>
        ((reply.text url settings.timeout).mapError SampleFault.fetch,
          { answered with requests := answered.requests ++
            [⟨⟨url, feature.method, requestHeaders authorization, body⟩, settings.timeout⟩] }) := by
  -- The body is asked for only where the method takes one; else nothing was typed.
  have hchoose : (chooseBody feature.method).run authorized = (readBody typed, answered) := by
    rw [chooseBody]
    rw [askBody] at hbody
    split
    · rename_i htakes
      rw [if_pos htakes] at hbody
      rw [talk_bind, talk_lift, hbody]
      rfl
    · rename_i htakes
      rw [if_neg htakes] at hbody
      cases hbody
      rfl
  have hbuild : (buildRequest settings feature).run session =
      ((readBody typed).map fun body =>
        ⟨url, feature.method, requestHeaders authorization, body⟩, answered) := by
    rw [buildRequest, hurl]
    dsimp only
    rw [talk_bind, talk_lift, hauthorization]
    dsimp only
    rw [talk_bind, hchoose]
    cases readBody typed <;> rfl
  rw [fetchSample, talk_bind, hbuild]
  cases readBody typed with
  | error fault => rfl
  | ok body =>
    dsimp only [Except.map]
    rw [talk_bind, talk_lift]
    dsimp only
    cases reply.text url settings.timeout <;> rfl

/-! ## The typed body -/

theorem lookup_exchanges {question : String} {texts : List String} (h : question ∉ texts)
    (lines : List String) : (exchanges texts lines).lookup question = none := by
  rw [List.lookup_eq_none_iff]
  intro exchange hmem
  have hasked := List.mem_map_of_mem (f := Prod.fst) hmem
  rw [exchanges_map_fst] at hasked
  rw [bne_iff_ne]
  rintro rfl
  exact h hasked

/-- The question for the body is asked once, of the methods that take one, and what is typed is its
line without blanks. -/
theorem askBody_spec {method : HttpMethod} {authorized answered : Session} {typed : Option String}
    (h : (askBody method).run authorized = (typed, answered)) :
    ∃ entries, authorized.Talks answered entries ∧ answered.requests = authorized.requests ∧
      Log.asked entries = (if method.takesBody then [bodyQuestion method] else []) ∧
      typed = if method.takesBody then
        (authorized.unread.head?.map Text.trim).filter (· ≠ "") else none := by
  rw [askBody] at h
  split at h
  · rename_i htakes
    simp only [htakes, if_true]
    have hrun : (((Session.question (bodyQuestion method) authorized).1.map Text.trim).filter (· ≠ ""),
        (Session.question (bodyQuestion method) authorized).2) = (typed, answered) := h
    rw [Session.question] at hrun
    cases hunread : authorized.unread with
    | nil =>
      rw [hunread] at hrun
      cases hrun
      exact ⟨[.ask (bodyQuestion method)], ⟨rfl, by simp [Session.logged, hunread]⟩, rfl, rfl, rfl⟩
    | cons line rest =>
      rw [hunread] at hrun
      cases hrun
      exact ⟨[.ask (bodyQuestion method)], ⟨rfl, by simp [Log.asked, hunread]⟩, rfl, rfl, rfl⟩
  · rename_i htakes
    simp only [htakes]
    cases h
    exact ⟨[], .refl _, rfl, rfl, rfl⟩

/-- **What was typed** is found in the dialogue, whatever is sent afterwards. -/
theorem typed?_eq {method : HttpMethod} {authorization : Option String}
    {authorized answered final : Session} {typed : Option String}
    (hauthorization : (chooseAuthorization settings).run session = (authorization, authorized))
    (hbody : (askBody method).run authorized = (typed, answered)) (hlog : final.log = answered.log)
    (hunread : final.unread = answered.unread) :
    session.typed? final (bodyQuestion method) = typed ∧
      (bodyQuestion method ∈ (session.dialogue final).map Prod.fst ↔ method.takesBody = true) := by
  obtain ⟨first, hfirst, hothers⟩ := (speaks_authorization settings).of_eq hauthorization
  obtain ⟨second, hsecond, -, hasked, htyped⟩ := askBody_spec hbody
  have hfinal : authorized.Talks final second :=
    ⟨hlog.trans hsecond.log, hunread.trans hsecond.unread⟩
  have hfree : bodyQuestion method ∉ Log.asked first :=
    fun hmem => absurd (head?_bodyQuestion method) (hothers _ hmem)
  have hdialogue : session.dialogue final = exchanges (Log.asked first) session.unread ++
      exchanges (Log.asked second) authorized.unread := by
    rw [hfirst.dialogue_trans hfinal, hfirst.dialogue_eq, hfinal.dialogue_eq]
  constructor
  · rw [Session.typed?, hdialogue, List.lookup_append, lookup_exchanges hfree, hasked, htyped]
    split <;> simp [exchanges]
  · rw [hdialogue, List.map_append, exchanges_map_fst, exchanges_map_fst, List.mem_append, hasked]
    split <;> simp_all

/-! ## What is sent -/

/-- An exchange carries what was typed. The body is asked for exactly of the methods that take one. A
text that is JSON is the body of the one request; if nothing was typed the request has no body; and a
text that is not JSON is reported and nothing is sent. -/
structure CarriesTyped (feature : Feature) (session : Session)
    (run : Except SampleFault String × Session) : Prop where
  asked : bodyQuestion feature.method ∈ (session.dialogue run.2).map Prod.fst ↔
    feature.method = .post ∨ feature.method = .put
  sent : ∀ text value, session.typed? run.2 (bodyQuestion feature.method) = some text →
    readJson text = .ok value → SendsOnce feature session run.2 (some value)
  unsent : session.typed? run.2 (bodyQuestion feature.method) = none →
    SendsOnce feature session run.2 none
  refused : ∀ text fault, session.typed? run.2 (bodyQuestion feature.method) = some text →
    readJson text = .error fault →
      run.1 = .error (.fetch (.badBody fault)) ∧ run.2.requests = session.requests

/-- What is typed has no blanks around it. -/
theorem trimWhile_typed? {before after : Session} {question text : String}
    (h : before.typed? after question = some text) :
    Text.trimWhile Text.isBlank text.toList = text.toList := by
  rw [Session.typed?, Option.filter_eq_some_iff, Option.map_eq_some_iff] at h
  obtain ⟨⟨line, -, rfl⟩, -⟩ := h
  rw [Text.trim, String.toList_ofList, Text.trimWhile_trimWhile]

theorem carried?_eq_some_iff {request : SampleRequest} {value : Json} :
    request.carried? = some value ↔ request.body = value ∧ value ≠ .null := by
  rw [SampleRequest.carried?]
  split
  · rename_i hnull
    rw [hnull]
    grind
  · grind

/-- An exchange in terms of what was typed: what that is read as decides what is sent. -/
theorem exists_typed (settings : Settings) (reply : Reply) (session : Session)
    (hurl : feature.fullUrl = some url) :
    ∃ typed authorization answered,
      session.typed? ((fetchSample settings reply feature).run session).2
          (bodyQuestion feature.method) = typed ∧
      (bodyQuestion feature.method ∈
          (session.dialogue ((fetchSample settings reply feature).run session).2).map Prod.fst ↔
        feature.method = .post ∨ feature.method = .put) ∧
      answered.requests = session.requests ∧
      (fetchSample settings reply feature).run session =
        match readBody typed with
        | .error fault => (.error fault, answered)
        | .ok body =>
          ((reply.text url settings.timeout).mapError SampleFault.fetch,
            { answered with requests := answered.requests ++
              [⟨⟨url, feature.method, requestHeaders authorization, body⟩, settings.timeout⟩] }) := by
  rcases hauthorization : (chooseAuthorization settings).run session with ⟨authorization, authorized⟩
  rcases hbody : (askBody feature.method).run authorized with ⟨typed, answered⟩
  have hmethod : feature.method.takesBody = true ↔ feature.method = .post ∨ feature.method = .put := by
    cases feature.method <;> simp [HttpMethod.takesBody]
  have hrun := fetchSample_run reply hurl hauthorization hbody
  -- The request itself asks nothing, so the dialogue is that of the questions before it.
  have hends : ((fetchSample settings reply feature).run session).2.log = answered.log ∧
      ((fetchSample settings reply feature).run session).2.unread = answered.unread := by
    rw [hrun]
    cases readBody typed <;> exact ⟨rfl, rfl⟩
  obtain ⟨htyped, hasked⟩ := typed?_eq hauthorization hbody hends.1 hends.2
  refine ⟨typed, authorization, answered, htyped, hasked.trans hmethod, ?_, hrun⟩
  obtain ⟨-, -, hsame, -⟩ := askBody_spec hbody
  have hnothing : authorized.requests = session.requests := by
    have hquiet := SendsNothing.chooseAuthorization settings session
    rwa [show chooseAuthorization settings session = (authorization, authorized) from hauthorization]
      at hquiet
  exact hsame.trans hnothing

/-- A session with one more request for a feature has sent once, with the body of that request. -/
theorem sendsOnce_iff {before answered : Session} {request : SampleRequest} {timeout : Int}
    {body : Option Json} (hrequests : answered.requests = before.requests)
    (hurl : feature.fullUrl = some request.url) (hmethod : request.method = feature.method) :
    SendsOnce feature before
        { answered with requests := answered.requests ++ [⟨request, timeout⟩] } body ↔
      request.carried? = body := by
  rw [SendsOnce, hrequests]
  constructor
  · rintro ⟨sent, hsent, -, -, hcarried⟩
    rw [List.append_cancel_left_eq, List.cons.injEq] at hsent
    rwa [← hsent.1] at hcarried
  · exact fun hcarried => ⟨_, rfl, hurl, hmethod, hcarried⟩

/-- **A request carries what was typed**, unless that is null or a text with a whole number of too
many digits. -/
theorem carriesTyped_iff (hurl : feature.fullUrl = some url) :
    CarriesTyped feature session ((fetchSample settings reply feature).run session) ↔
      ∀ text, session.typed? ((fetchSample settings reply feature).run session).2
          (bodyQuestion feature.method) = some text →
        text ≠ "null" ∧ ∀ digits, ¬ Document.HoldsLongInteger digits text.toList := by
  obtain ⟨typed, authorization, answered, htyped, hasked, hrequests, hrun⟩ :=
    exists_typed settings reply session hurl
  rw [htyped]
  -- What was typed is sent once, as what it is read as; and only null is read as null.
  have hsent : ∀ {body}, readBody typed = .ok body → ∀ carried,
      SendsOnce feature session ((fetchSample settings reply feature).run session).2 carried ↔
        SampleRequest.carried? ⟨url, feature.method, requestHeaders authorization, body⟩ = carried := by
    intro body hread carried
    rw [hrun, hread]
    exact sendsOnce_iff hrequests hurl rfl
  have hnull : ∀ text, typed = some text → (readJson text = .ok .null ↔ text = "null") :=
    fun text htext => Document.readJson_eq_null_iff (trimWhile_typed? (htyped.trans htext))
  constructor
  · rintro ⟨-, hcarries, -, hrefused⟩ text rfl
    rw [htyped] at hcarries hrefused
    constructor
    · -- Null is encoded as no body, so its request does not carry it.
      intro hword
      have hread := (hnull text rfl).2 hword
      have hvalue : readBody (some text) = .ok .null := by rw [readBody, hread]
      exact (carried?_eq_some_iff.1 ((hsent hvalue _).1 (hcarries text _ rfl hread))).2 rfl
    · -- Too many digits are no malformed text, so their fault is not reported.
      intro digits hlong
      have hread := Document.readJson_longInteger_iff.2 hlong
      have hvalue : readBody (some text) = .error (.longInteger digits) := by rw [readBody, hread]
      have hreported := (hrefused text _ rfl hread).1
      rw [hrun, hvalue] at hreported
      cases hreported
  · intro hfine
    refine ⟨hasked, ?_, ?_, ?_⟩
    · rw [htyped]
      rintro text value rfl hread
      have hvalue : readBody (some text) = .ok value := by rw [readBody, hread]
      refine (hsent hvalue _).2 (carried?_eq_some_iff.2 ⟨rfl, ?_⟩)
      rintro rfl
      exact (hfine text rfl).1 ((hnull text rfl).1 hread)
    · rw [htyped]
      rintro rfl
      exact (hsent rfl _).2 rfl
    · rw [htyped]
      rintro text fault rfl hread
      cases fault with
      | longInteger digits =>
        exact absurd (Document.readJson_longInteger_iff.1 hread) ((hfine text rfl).2 digits)
      | malformed kind line column offset =>
        have hvalue : readBody (some text) =
            .error (.fetch (.badBody (.malformed kind line column offset))) := by
          rw [readBody, hread]
        rw [hrun, hvalue]
        exact ⟨rfl, hrequests⟩

/-- A feature whose method takes a body. -/
def noteFeature : Feature :=
  Feature.ofParts "/notes".toList [] .post (some "http://h")

/-- The exchange for a feature when one line is typed. -/
def exchangeTyping (line : String) : Except SampleFault String × Session :=
  (fetchSample { authToken := some "t" } (.response 200 "[]") noteFeature).run { unread := [line] }

theorem fullUrl_noteFeature : noteFeature.fullUrl = some "http://h/notes" := by
  decide +kernel

theorem typed?_exchangeTyping (line : String) :
    ({ unread := [line] } : Session).typed? (exchangeTyping line).2 (bodyQuestion noteFeature.method) =
      (some (Text.trim line)).filter (· ≠ "") := by
  have hbody : (askBody noteFeature.method).run { unread := [line] } =
      ((some (Text.trim line)).filter (· ≠ ""),
        { unread := [], log := [.ask (bodyQuestion noteFeature.method)] }) := rfl
  have hauthorization : (chooseAuthorization { authToken := some "t" }).run { unread := [line] } =
      (some "t", { unread := [line] }) := rfl
  have hrun := fetchSample_run (.response 200 "[]") fullUrl_noteFeature hauthorization hbody
  refine (typed?_eq hauthorization hbody ?_ ?_).1
  all_goals
    rw [exchangeTyping, hrun]
    cases readBody ((some (Text.trim line)).filter (· ≠ "")) <;> rfl

/-- An array with blanks around it is carried. -/
theorem typed_array_carried :
    noteFeature.fullUrl = some "http://h/notes" ∧
      CarriesTyped noteFeature { unread := [" [1] "] } (exchangeTyping " [1] ") := by
  refine ⟨fullUrl_noteFeature, (carriesTyped_iff fullUrl_noteFeature).2 fun text htext => ?_⟩
  have htyped := typed?_exchangeTyping " [1] "
  have hword : (some (Text.trim " [1] ")).filter (· ≠ "") = some "[1]" := by decide +kernel
  rw [exchangeTyping, htext, hword] at htyped
  cases htyped
  refine ⟨by decide, fun digits hlong => ?_⟩
  have hread := Document.readJson_longInteger_iff.2 hlong
  cases hread

/-- Null is typed, and the request carries no body. -/
theorem null_not_carried :
    ¬ CarriesTyped noteFeature { unread := ["null"] } (exchangeTyping "null") ∧
      ({ unread := ["null"] } : Session).typed? (exchangeTyping "null").2
          (bodyQuestion noteFeature.method) = some "null" ∧
        readJson "null" = .ok .null ∧
          SendsOnce noteFeature { unread := ["null"] } (exchangeTyping "null").2 none := by
  have hword : (some (Text.trim "null")).filter (· ≠ "") = some "null" := by decide +kernel
  have htyped := (typed?_exchangeTyping "null").trans hword
  have hread : readJson "null" = .ok .null := rfl
  refine ⟨fun hcarries => ?_, htyped, hread, ⟨_, rfl, fullUrl_noteFeature, rfl, rfl⟩⟩
  obtain ⟨sent, -, -, -, hcarried⟩ := hcarries.sent "null" .null htyped hread
  exact (carried?_eq_some_iff.1 hcarried).2 rfl

end DartLayers
