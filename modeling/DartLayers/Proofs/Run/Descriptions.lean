import DartLayers.Proofs.Endpoint.Malformed
import DartLayers.Proofs.Run.Outcomes

/-!
# DartLayers — the description of an endpoint in a run

A run reports a method that it does not support before it asks for anything. Given a supported method
it describes the endpoint, and the description can only fail for an address with a malformed
authority. That failure is not reported: the run ends without a result.

* **`describeFeature_run`** — a description never fails for another reason.
* **`generateLayers_of_unsupported`**, **`generateLayers_of_malformed`** — runs without a
  description.
* **`isAccounted_iff`** — which endpoints are described or reported.
-/

namespace DartLayers

variable {endpoint method : String}

/-- A description asks for the base first and then takes the endpoint apart. -/
theorem describeFeature_run (settings : Settings) (endpoint : String) (method : HttpMethod)
    (session : Session) :
    (describeFeature settings endpoint method).run session =
      ((Feature.ofEndpoint endpoint method ((resolveBaseUrl settings endpoint).run session).1).mapError
          .address,
        ((resolveBaseUrl settings endpoint).run session).2) := by
  rw [describeFeature, talk_bind, talk_lift]
  dsimp only
  cases Feature.ofEndpoint endpoint method ((resolveBaseUrl settings endpoint).run session).1 <;> rfl

/-- **An unsupported method makes a run fail** before it has asked for anything. -/
theorem generateLayers_of_unsupported (hmethod : HttpMethod.parse? method = none)
    (settings : Settings) (source : SampleSource) (endpoint : String) (before : FileTree)
    (session : Session) :
    (generateLayers settings source endpoint method).run before session =
      ((.ok { error := some (HttpMethod.unsupportedMessage method) }, before),
        session.logged [.error (HttpMethod.unsupportedMessage method)]) := by
  rw [generateLayers_eq, prepare, hmethod]
  rfl

/-- **A malformed endpoint ends a run** without a result, before it has looked at a file. -/
theorem generateLayers_of_malformed {parsed : HttpMethod}
    (hmethod : HttpMethod.parse? method = some parsed) (hendpoint : IsMalformedEndpoint endpoint)
    (settings : Settings) (source : SampleSource) (before : FileTree) (session : Session) :
    ∃ fault final, (generateLayers settings source endpoint method).run before session =
      ((.error (.address fault), before), final) := by
  obtain ⟨fault, hfault⟩ := (ofEndpoint_error_iff endpoint parsed
    ((resolveBaseUrl settings endpoint).run session).1).2 hendpoint
  refine ⟨fault, ((resolveBaseUrl settings endpoint).run session).2, ?_⟩
  have hprepare : (prepare settings source endpoint method).run session =
      (.error (.address fault), ((resolveBaseUrl settings endpoint).run session).2) := by
    rw [prepare, hmethod]
    dsimp only
    rw [talk_bind, describeFeature_run, hfault]
    rfl
  rw [generateLayers_eq, hprepare]

/-- An endpoint and a method are accounted for. With an unsupported method every run fails with the
reason before anything is asked. With a supported one every run describes the endpoint, and the names
in the description are not empty, or the run fails with the reason. -/
def IsAccounted (endpoint method : String) : Prop :=
  match HttpMethod.parse? method with
  | none => ∀ settings source before session,
    (generateLayers settings source endpoint method).run before session =
      ((.ok { error := some (HttpMethod.unsupportedMessage method) }, before),
        session.logged [.error (HttpMethod.unsupportedMessage method)])
  | some parsed => ∀ settings session,
    (∃ feature final, (describeFeature settings endpoint parsed).run session = (.ok feature, final) ∧
        feature.name ≠ "" ∧ feature.pascalName ≠ "") ∨
      ∀ source before, ∃ message final,
        (generateLayers settings source endpoint method).run before session =
          ((.ok { error := some message }, before), final)

/-- **Every endpoint is described or reported, unless its method is supported and its authority is
malformed.** -/
theorem isAccounted_iff (endpoint method : String) :
    IsAccounted endpoint method ↔
      HttpMethod.parse? method = none ∨ ¬ IsMalformedEndpoint endpoint := by
  unfold IsAccounted
  cases hmethod : HttpMethod.parse? method with
  | none =>
    refine iff_of_true (fun settings source before session => ?_) (.inl rfl)
    exact generateLayers_of_unsupported hmethod settings source endpoint before session
  | some parsed =>
    constructor
    · -- For a malformed authority a run of its own ends without a result, so it is not accounted
      -- for.
      intro h
      refine .inr fun hmalformed => ?_
      rcases h silent { unread := [] } with ⟨feature, final, hdescribed, -⟩ | hreported
      · -- a description would be one of the endpoint
        rw [describeFeature_run] at hdescribed
        obtain ⟨fault, hfault⟩ := (ofEndpoint_error_iff endpoint parsed
          ((resolveBaseUrl silent endpoint).run { unread := [] }).1).2 hmalformed
        rw [hfault] at hdescribed
        cases hdescribed
      · obtain ⟨message, final, hrun⟩ := hreported (.text "") (.below [] [])
        obtain ⟨fault, after, hended⟩ := generateLayers_of_malformed hmethod hmalformed silent
          (.text "") (.below [] []) { unread := [] }
        rw [hended] at hrun
        cases hrun
    · rintro (hnone | hfine) settings session
      · cases hnone
      · obtain ⟨feature, hfeature⟩ := exists_ofEndpoint_eq_ok hfine parsed
          ((resolveBaseUrl settings endpoint).run session).1
        refine .inl ⟨feature, ((resolveBaseUrl settings endpoint).run session).2, ?_,
          Feature.names_ne_empty hfeature⟩
        rw [describeFeature_run, hfeature]
        rfl

/-- An opening bracket alone is no authority, and a run for it returns nothing. -/
theorem open_bracket_interrupts :
    ¬ IsAccounted "http://[" "GET" ∧
      (generateLayers silent (.text "\x7b\x7d") "http://[" "GET").run (.below [] [])
          { unread := [] } =
        ((.error (.address .brackets), .below [] []), { unread := [] }) := by
  have hrun : (generateLayers silent (.text "\x7b\x7d") "http://[" "GET").run (.below [] [])
      { unread := [] } = ((.error (.address .brackets), .below [] []), { unread := [] }) := by
    have hprepare : (prepare silent (.text "\x7b\x7d") "http://[" "GET").run { unread := [] } =
        (.error (.address .brackets), { unread := [] }) := by
      rw [prepare, parse_get]
      rfl
    rw [generateLayers_eq, hprepare]
  refine ⟨fun h => ?_, hrun⟩
  unfold IsAccounted at h
  rw [parse_get] at h
  rcases h silent { unread := [] } with ⟨feature, final, hdescribed, -⟩ | hreported
  · have hended : (describeFeature silent "http://[" .get).run { unread := [] } =
        (.error (.address .brackets), { unread := [] }) := by rfl
    rw [hended] at hdescribed
    cases hdescribed
  · obtain ⟨message, final, hreported⟩ := hreported (.text "\x7b\x7d") (.below [] [])
    rw [hrun] at hreported
    cases hreported

end DartLayers
