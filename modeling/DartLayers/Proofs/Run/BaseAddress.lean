import DartLayers.Proofs.Endpoint.Malformed
import DartLayers.Proofs.Run.Descriptions
import DartLayers.Proofs.Text.Lower

/-!
# DartLayers — which endpoints bring their base address

Two tests decide whether an endpoint brings its own base address. A run looks at the endpoint in lower
case before it asks for a base, and the description looks for the scheme without regard to case before
it drops the base that it is given. They agree but for one spelling: a long s counts as an s where case
is disregarded, but in lower case it stays as it is. The operator of a run for such an endpoint is asked
for a base that nothing uses.

* **`bringsBaseUrl_iff`**, **`isAbsolute_iff`** — the two tests in terms of the text.
* **`resolveBaseUrl_cases`** — what comes of the first one.
* **`SettlesBase`** — how the base of an endpoint is settled where they agree.
* **`settlesBase_iff`** — where that is.
-/

namespace DartLayers

/-! ## The two tests -/

/-- An endpoint that is described as an absolute address. -/
def IsAbsolute (endpoint : String) : Prop :=
  Address.looksAbsolute (Text.trimWhile Text.isBlank endpoint.toList) = true

/-- An endpoint that spells the scheme `https` with a long s. -/
def SpellsLongS (endpoint : String) : Prop :=
  ∃ front rest, Text.trimWhile Text.isBlank endpoint.toList =
      front ++ Address.longS :: ':' :: '/' :: '/' :: rest ∧ front.map Char.toLower = "http".toList

/-- A text in lower case starts with a scheme exactly if the text does, in any case. -/
theorem prefix_lowerChars_iff (scheme : List Char)
    (hscheme : ∀ c ∈ scheme, c.toNat < 0x80 ∧ c ≠ 'i' ∧ c ≠ 'k') (text : List Char) :
    scheme ++ "://".toList <+: Text.lowerChars text ↔
      ∃ front rest, text = front ++ ':' :: '/' :: '/' :: rest ∧ front.map Char.toLower = scheme := by
  have hword : ∀ c ∈ scheme ++ "://".toList, c.toNat < 0x80 ∧ c ≠ 'i' ∧ c ≠ 'k' := by
    rw [List.forall_mem_append]
    exact ⟨hscheme, by simp⟩
  rw [Text.lowerChars, Text.prefix_lowerAfter_iff hword]
  constructor
  · rintro ⟨whole, rest, rfl, hwhole⟩
    obtain ⟨front, mark, rfl, hfront, hmark⟩ := List.map_eq_append_iff.1 hwhole
    -- the marks behind the scheme have no case
    obtain rfl := Text.eq_of_map_toLower_eq hmark (by simp)
    exact ⟨front, rest, by simp, hfront⟩
  · rintro ⟨front, rest, rfl, hfront⟩
    refine ⟨front ++ "://".toList, rest, by simp, ?_⟩
    rw [List.map_append, hfront]
    rfl

/-- **A run takes for an absolute address** what starts with one of the two schemes, in any case. -/
theorem bringsBaseUrl_iff (endpoint : String) :
    bringsBaseUrl endpoint = true ↔
      ∃ scheme rest, Text.trimWhile Text.isBlank endpoint.toList =
        scheme ++ ':' :: '/' :: '/' :: rest ∧ Address.IsHttp scheme := by
  have htext : (Text.lower (Text.trim endpoint)).toList =
      Text.lowerChars (Text.trimWhile Text.isBlank endpoint.toList) := by
    rw [Text.lower, Text.trim, String.toList_ofList, String.toList_ofList]
  have hhttp := prefix_lowerChars_iff "http".toList (by simp)
    (Text.trimWhile Text.isBlank endpoint.toList)
  have hhttps := prefix_lowerChars_iff "https".toList (by simp)
    (Text.trimWhile Text.isBlank endpoint.toList)
  rw [bringsBaseUrl, htext, Bool.or_eq_true, List.isPrefixOf_iff_prefix, List.isPrefixOf_iff_prefix]
  constructor
  · rintro (hstarts | hstarts)
    · obtain ⟨scheme, rest, hsplit, hscheme⟩ := hhttp.1 hstarts
      exact ⟨scheme, rest, hsplit, by simp [Address.IsHttp, hscheme]⟩
    · obtain ⟨scheme, rest, hsplit, hscheme⟩ := hhttps.1 hstarts
      exact ⟨scheme, rest, hsplit, by simp [Address.IsHttp, hscheme]⟩
  · rintro ⟨scheme, rest, hsplit, hscheme⟩
    rw [Address.IsHttp, List.mem_cons, List.mem_singleton] at hscheme
    rcases hscheme with hscheme | hscheme
    · exact .inl (hhttp.2 ⟨scheme, rest, hsplit, hscheme⟩)
    · exact .inr (hhttps.2 ⟨scheme, rest, hsplit, hscheme⟩)

/-- **A description takes for an absolute address** what a run does, and what is spelled with a long
s. -/
theorem isAbsolute_iff (endpoint : String) :
    IsAbsolute endpoint ↔ bringsBaseUrl endpoint = true ∨ SpellsLongS endpoint := by
  rw [IsAbsolute, Address.looksAbsolute_iff, bringsBaseUrl_iff]
  constructor
  · rintro ⟨scheme, rest, hsplit, hscheme⟩
    rcases Address.isWebScheme_cases hscheme with hhttp | ⟨front, rfl, hfront⟩
    · exact .inl ⟨scheme, rest, hsplit, hhttp⟩
    · exact .inr ⟨front, rest, by simpa using hsplit, hfront⟩
  · rintro (⟨scheme, rest, hsplit, hhttp⟩ | ⟨front, rest, hsplit, hfront⟩)
    · exact ⟨scheme, rest, hsplit, Address.isWebScheme_of_isHttp hhttp⟩
    · exact ⟨front ++ [Address.longS], rest, by simpa using hsplit,
        Address.isWebScheme_append_longS hfront⟩

/-- A run does not take for an absolute address what is spelled with a long s. -/
theorem SpellsLongS.bringsBaseUrl_eq {endpoint : String} (h : SpellsLongS endpoint) :
    bringsBaseUrl endpoint = false := by
  obtain ⟨front, rest, hsplit, hfront⟩ := h
  rw [← Bool.not_eq_true, bringsBaseUrl_iff]
  rintro ⟨scheme, more, hsame, hhttp⟩
  exact Address.not_isHttp_of_longS hfront (hsplit.symm.trans hsame) hhttp

/-! ## The base -/

/-- The base that a description keeps of one that it is given: none of an empty one, and of any other
what is left without the slashes at its end. -/
def keptBase (base : String) : Option String :=
  if base = "" then none else some (Text.dropEndSlashes base)

theorem Feature.baseUrl_ofParts (path query : List Char) (method : HttpMethod) (base : String) :
    (ofParts path query method (some base)).baseUrl = keptBase base := by
  show ((some base).filter (· ≠ "")).map Text.dropEndSlashes = keptBase base
  rw [Option.filter_some, keptBase]
  by_cases hempty : base = "" <;> simp [hempty]

/-- A relative endpoint is described with the base beside it. -/
theorem ofEndpoint_of_not_isAbsolute {endpoint : String} (h : ¬ IsAbsolute endpoint)
    (method : HttpMethod) (base : String) :
    ∃ feature, Feature.ofEndpoint endpoint method (some base) = .ok feature ∧
      feature.baseUrl = keptBase base := by
  rw [IsAbsolute] at h
  rw [Feature.ofEndpoint, if_neg h]
  exact ⟨_, rfl, Feature.baseUrl_ofParts _ _ method base⟩

/-- An absolute endpoint is described without the base beside it. -/
theorem ofEndpoint_of_isAbsolute {endpoint : String} (h : IsAbsolute endpoint) (method : HttpMethod)
    (base other : Option String) :
    Feature.ofEndpoint endpoint method base = Feature.ofEndpoint endpoint method other := by
  rw [IsAbsolute] at h
  rw [Feature.ofEndpoint, Feature.ofEndpoint, if_pos h, if_pos h]

/-- What comes of the question for a base: nothing where the endpoint brings its own, or else the base
that is set, or else the operator's. -/
theorem resolveBaseUrl_cases (settings : Settings) (endpoint : String) (session : Session) :
    (bringsBaseUrl endpoint = true ∧
        (resolveBaseUrl settings endpoint).run session = (none, session)) ∨
      (bringsBaseUrl endpoint = false ∧
        ∃ base after, (resolveBaseUrl settings endpoint).run session = (some base, after) ∧
          (settings.baseUrl.filter (· ≠ "") = some base ∧ after = session ∨
            settings.baseUrl.filter (· ≠ "") = none ∧
              (Operator.askBaseUrl defaultBaseUrl).run session = (base, after))) := by
  rw [resolveBaseUrl]
  cases bringsBaseUrl endpoint with
  | true => exact .inl ⟨rfl, rfl⟩
  | false =>
    refine .inr ⟨rfl, ?_⟩
    cases settings.baseUrl.filter (· ≠ "") with
    | some base => exact ⟨base, session, rfl, .inl ⟨rfl, rfl⟩⟩
    | none => exact ⟨_, _, rfl, .inr ⟨rfl, rfl⟩⟩

/-- A run that brings no base of its own settles one. -/
theorem exists_resolveBaseUrl_eq {endpoint : String} (h : bringsBaseUrl endpoint = false)
    (settings : Settings) (session : Session) :
    ∃ base after, (resolveBaseUrl settings endpoint).run session = (some base, after) := by
  rcases resolveBaseUrl_cases settings endpoint session with ⟨hbrings, -⟩ | ⟨-, base, after, hrun, -⟩
  · rw [h] at hbrings
    cases hbrings
  · exact ⟨base, after, hrun⟩

/-- A base is neither asked for nor taken from the settings exactly if the endpoint brings its own. -/
theorem resolveBaseUrl_unasked_iff (endpoint : String) :
    (∀ settings session, (resolveBaseUrl settings endpoint).run session = (none, session)) ↔
      bringsBaseUrl endpoint = true := by
  constructor
  · intro hnone
    cases hbrings : bringsBaseUrl endpoint with
    | true => rfl
    | false =>
      obtain ⟨base, after, hrun⟩ := exists_resolveBaseUrl_eq hbrings {} { unread := [] }
      rw [hnone] at hrun
      cases hrun
  · intro hbrings settings session
    rcases resolveBaseUrl_cases settings endpoint session with ⟨-, hrun⟩ | ⟨hnot, -⟩
    · exact hrun
    · rw [hbrings] at hnot
      cases hnot

/-! ## Where the tests agree -/

/-- How the base of an endpoint is settled. A base is neither asked for nor taken from the settings
exactly if the endpoint is described as an absolute address, which ignores it. A relative one always
gets a base, and a base that an endpoint gets is the one in its description. -/
structure SettlesBase (endpoint : String) : Prop where
  unasked_iff : (∀ settings session,
    (resolveBaseUrl settings endpoint).run session = (none, session)) ↔ IsAbsolute endpoint
  ignored : IsAbsolute endpoint → ∀ method base other,
    Feature.ofEndpoint endpoint method base = Feature.ofEndpoint endpoint method other
  resolved : ¬ IsAbsolute endpoint → ∀ settings session,
    ∃ base after, (resolveBaseUrl settings endpoint).run session = (some base, after)
  used : ∀ settings session base after,
    (resolveBaseUrl settings endpoint).run session = (some base, after) → ∀ method,
      ∃ feature, (describeFeature settings endpoint method).run session = (.ok feature, after) ∧
        feature.baseUrl = keptBase base

/-- **The base is settled but for endpoints that are spelled with a long s.** For those a base is asked
for, or taken from the settings, and discarded. -/
theorem settlesBase_iff (endpoint : String) : SettlesBase endpoint ↔ ¬ SpellsLongS endpoint := by
  constructor
  · intro hsettles hlong
    have hbrings : bringsBaseUrl endpoint = true :=
      (resolveBaseUrl_unasked_iff endpoint).1
        (hsettles.unasked_iff.2 ((isAbsolute_iff endpoint).2 (.inr hlong)))
    rw [hlong.bringsBaseUrl_eq] at hbrings
    cases hbrings
  · intro hspelled
    have hsame : IsAbsolute endpoint ↔ bringsBaseUrl endpoint = true := by
      rw [isAbsolute_iff, or_iff_left hspelled]
    refine ⟨?_, ofEndpoint_of_isAbsolute, ?_, ?_⟩
    · rw [resolveBaseUrl_unasked_iff, hsame]
    · intro hrelative
      rw [hsame, Bool.not_eq_true] at hrelative
      exact exists_resolveBaseUrl_eq hrelative
    · intro settings session base after hrun method
      have hrelative : ¬ IsAbsolute endpoint := by
        rw [hsame]
        intro hbrings
        rw [(resolveBaseUrl_unasked_iff endpoint).2 hbrings] at hrun
        cases hrun
      obtain ⟨feature, hfeature, hbase⟩ := ofEndpoint_of_not_isAbsolute hrelative method base
      refine ⟨feature, ?_, hbase⟩
      rw [describeFeature_run, hrun]
      dsimp only
      rw [hfeature]
      rfl

/-- For a scheme with a long s the operator is asked for a base, and the answer is not the one in the
description. -/
theorem longS_base_discarded :
    ¬ SettlesBase "http\u017F://h/users" ∧
      ∃ after, (resolveBaseUrl {} "http\u017F://h/users").run { unread := ["https://api.test"] } =
          (some "https://api.test", after) ∧ after.unread = [] ∧
        ∃ feature, (describeFeature {} "http\u017F://h/users" .get).run
            { unread := ["https://api.test"] } = (.ok feature, after) ∧
          feature.baseUrl = some ":" := by
  have hbrings : bringsBaseUrl "http\u017F://h/users" = false := by decide +kernel
  have hrun : (resolveBaseUrl {} "http\u017F://h/users").run { unread := ["https://api.test"] } =
      (some "https://api.test",
        ((Operator.askBaseUrl defaultBaseUrl).run { unread := ["https://api.test"] }).2) := by
    rw [resolveBaseUrl, hbrings]
    rfl
  constructor
  · intro hsettles
    have hnone := hsettles.unasked_iff.2 (by rw [IsAbsolute]; decide)
    rw [hnone] at hrun
    cases hrun
  · refine ⟨_, hrun, rfl, ?_⟩
    rw [describeFeature_run, hrun]
    exact ⟨_, rfl, rfl⟩

end DartLayers
