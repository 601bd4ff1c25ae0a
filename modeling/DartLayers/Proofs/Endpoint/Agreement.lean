import DartLayers.Proofs.Endpoint.Malformed

/-!
# DartLayers — one endpoint written in two ways

The same endpoint can be given as a path with a base address beside it, or as an absolute address that
starts with the base. A path is cut at its marks only; an absolute address is cut into scheme, authority
and path before that, and loses the characters that are ignored inside of addresses. Where the base is a
scheme and a host, and nothing in the path is ignored or trimmed, both cuts come to the same.

* **`IsHostName`**, **`IsRootedPath`** — the hosts and the paths in question.
* **`Address.parse_rooted`** — the cut of an absolute address that is put together of them.
* **`dropEndSlashes_httpsBase`** — the base without the slashes at its end.
* **`ofEndpoint_httpsBase`** — both ways of writing describe one feature.
-/

namespace DartLayers

namespace Text

section

variable {p : Char → Bool} {text : List Char}

theorem dropEndWhile_eq_self (hlast : ∀ c ∈ text.getLast?, p c = false) :
    dropEndWhile p text = text := by
  rw [← List.head?_reverse] at hlast
  have hback : text.reverse.dropWhile p = text.reverse := dropWhile_append_of_head hlast []
  rw [dropEndWhile, hback, List.reverse_reverse]

/-- Nothing is trimmed from a text whose ends are kept. -/
theorem trimWhile_eq_self (hfirst : ∀ c ∈ text.head?, p c = false)
    (hlast : ∀ c ∈ text.getLast?, p c = false) : trimWhile p text = text := by
  have hfront : text.dropWhile p = text := dropWhile_append_of_head hfirst []
  rw [trimWhile, hfront, dropEndWhile_eq_self hlast]

end

end Text

/-! ## Hosts and paths -/

/-- Letters, digits, dots and hyphens, the characters of host names. -/
def isHostChar (c : Char) : Bool :=
  c.isAlphanum || c == '.' || c == '-'

/-- A text that is made of the characters of host names. -/
def IsHostName (host : List Char) : Prop :=
  ∀ c ∈ host, isHostChar c = true

instance (host : List Char) : Decidable (IsHostName host) :=
  decidable_of_iff (host.all isHostChar = true) List.all_eq_true

/-- A path that starts with a slash, has no blank at its end and holds none of the characters that are
ignored inside of addresses. -/
structure IsRootedPath (path : List Char) : Prop where
  rooted : path.head? = some '/'
  trimmed : ∀ c ∈ path.getLast?, Text.isBlank c = false
  kept : ∀ c ∈ path, Address.isIgnored c = false

theorem isRootedPath_iff {path : List Char} :
    IsRootedPath path ↔ path.head? = some '/' ∧ (∀ c ∈ path.getLast?, Text.isBlank c = false) ∧
      ∀ c ∈ path, Address.isIgnored c = false :=
  ⟨fun ⟨hrooted, htrimmed, hkept⟩ => ⟨hrooted, htrimmed, hkept⟩,
    fun ⟨hrooted, htrimmed, hkept⟩ => ⟨hrooted, htrimmed, hkept⟩⟩

instance (path : List Char) : Decidable (IsRootedPath path) :=
  decidable_of_iff (path.head? = some '/' ∧ path.getLast?.any Text.isBlank = false ∧
      path.any Address.isIgnored = false) (by
    cases hlast : path.getLast? <;> simp [isRootedPath_iff, hlast])

/-- No character of a host name is a delimiter, in disguise or not. -/
theorem isHostChar_spec {c : Char} (h : isHostChar c = true) :
    Address.endsAuthority c = false ∧ Address.isIgnored c = false ∧ c ≠ '[' ∧ c ≠ ']' ∧
      c.toNat < 0x80 := by
  have hne : ∀ d, isHostChar d = false → c ≠ d := by
    rintro d hd rfl
    rw [h] at hd
    cases hd
  refine ⟨?_, ?_, hne '[' (by decide), hne ']' (by decide), ?_⟩
  · simp [Address.endsAuthority, hne '/' (by decide), hne '?' (by decide), hne '#' (by decide)]
  · simp [Address.isIgnored, hne '\t' (by decide), hne '\r' (by decide), hne '\n' (by decide)]
  · simp only [isHostChar, Bool.or_eq_true, beq_iff_eq] at h
    rcases h with (halphanum | rfl) | rfl
    · simp [Char.isAlphanum, Char.isAlpha, Char.isUpper, Char.isLower, Char.isDigit,
        UInt32.le_iff_toNat_le] at halphanum
      omega
    · decide
    · decide

namespace Address

section

variable {host path : List Char} (hhost : IsHostName host)

include hhost

/-- A host name is no malformed authority. -/
theorem not_isMalformed_of_isHostName : ¬ IsMalformed host := by
  rintro ((⟨hopen, -⟩ | ⟨-, hclose⟩) | ⟨hopen, -⟩ | ⟨c, hc, hdisguised⟩)
  · exact (isHostChar_spec (hhost _ hopen)).2.2.1 rfl
  · exact (isHostChar_spec (hhost _ hclose)).2.2.2.1 rfl
  · exact (isHostChar_spec (hhost _ hopen)).2.2.1 rfl
  · -- a delimiter in disguise is no ASCII character
    have hascii := (isHostChar_spec (hhost c hc)).2.2.2.2
    have hbeyond : ∀ code ∈ disguisedDelimiters, 0x80 ≤ code := by decide
    exact absurd (hbeyond _ hdisguised) (by omega)

/-- An absolute address that is put together of a scheme, a host and a path is cut into these. -/
theorem parse_rooted (hpath : IsRootedPath path) :
    parse ("https".toList ++ ':' :: '/' :: '/' :: (host ++ path)) =
      .ok ⟨"https".toList, host, (takePath path).1, (takePath path).2⟩ := by
  have hkept : (host ++ path).filter (fun c => !isIgnored c) = host ++ path := by
    apply List.filter_eq_self.2
    intro c hc
    rcases List.mem_append.1 hc with hc | hc
    · simp [(isHostChar_spec (hhost c hc)).2.1]
    · simp [hpath.kept c hc]
  have hmark : (':' :: '/' :: '/' :: (host ++ path)).filter (fun c => !isIgnored c) =
      ':' :: '/' :: '/' :: (host ++ path) := congrArg (':' :: '/' :: '/' :: ·) hkept
  -- the authority ends at the slash that the path starts with
  have hends : ∀ c ∈ path.head?, (!endsAuthority c) = false := by
    rw [hpath.rooted]
    rintro c ⟨⟩
    rfl
  have hstays : ∀ c ∈ host, (!endsAuthority c) = true := fun c hc => by
    simp [(isHostChar_spec (hhost c hc)).1]
  have hauthority : takeAuthority ('/' :: '/' :: (host ++ path)) = (host, path) := by
    rw [takeAuthority, Text.takeWhile_append_of_head hends, Text.dropWhile_append_of_head hends,
      List.takeWhile_eq_self_iff.2 hstays, List.dropWhile_eq_nil_iff.2 hstays, List.nil_append]
  have hfine : authorityFault? host = none := by
    cases hfault : authorityFault? host with
    | none => rfl
    | some fault => exact absurd (exists_fault_iff.1 ⟨fault, hfault⟩) (not_isMalformed_of_isHostName hhost)
  have hhttps : IsHttp "https".toList := by simp [IsHttp]
  rw [parse, filter_append_of_isAlpha (isAlpha_of_isHttp hhttps), hmark, takeScheme_of_isHttp hhttps]
  simp only [hauthority, hfine]
  rfl

end

end Address

/-! ## The base -/

/-- A base address that is made of a scheme and a host. -/
def httpsBase (host : String) : String :=
  "https://" ++ host

/-- A host name does not end with a slash, so that the base stays as it is. Without a host its slashes
are those of the scheme, and they are dropped. -/
theorem dropEndSlashes_httpsBase {host : String} (hhost : IsHostName host.toList) :
    Text.dropEndSlashes (httpsBase host) = if host = "" then "https:" else httpsBase host := by
  split
  · rename_i hempty
    rw [hempty]
    decide
  · rename_i hne
    have hchars : host.toList ≠ [] := fun hnil => hne (String.toList_eq_nil_iff.1 hnil)
    have hlast : ∀ c ∈ (httpsBase host).toList.getLast?, (c == '/') = false := by
      rw [httpsBase, String.toList_append, List.getLast?_append_of_ne_nil _ hchars]
      intro c hc
      have hends := (isHostChar_spec (hhost c (List.mem_of_getLast? hc))).1
      simp only [Address.endsAuthority, Bool.or_eq_false_iff] at hends
      exact hends.1.1
    rw [Text.dropEndSlashes, Text.dropEndWhile_eq_self hlast, String.ofList_toList]

/-! ## The two ways of writing -/

/-- A path that starts with a slash still does when it is cut at its marks. -/
theorem Address.head?_takePath {path : List Char} (h : path.head? = some '/') :
    (takePath path).1.head? = some '/' := by
  obtain ⟨rest, rfl⟩ := List.head?_eq_some_iff.1 h
  simp [takePath, Text.cutAt]

section

variable {host endpoint : String} (hhost : IsHostName host.toList)
  (hendpoint : IsRootedPath endpoint.toList)

include hendpoint

/-- A path with a base beside it is cut at its marks. -/
theorem ofEndpoint_of_isRootedPath (method : HttpMethod) (base : Option String) :
    Feature.ofEndpoint endpoint method base =
      .ok (Feature.ofParts (Address.takePath endpoint.toList).1
        (Address.takePath endpoint.toList).2 method base) := by
  have hfirst : ∀ c ∈ endpoint.toList.head?, Text.isBlank c = false := by
    rw [hendpoint.rooted]
    rintro c ⟨⟩
    rfl
  have htrimmed : Text.trimWhile Text.isBlank endpoint.toList = endpoint.toList :=
    Text.trimWhile_eq_self hfirst hendpoint.trimmed
  have hrelative : Address.looksAbsolute endpoint.toList = false := by
    obtain ⟨rest, hrest⟩ := List.head?_eq_some_iff.1 hendpoint.rooted
    rw [hrest]
    simp [Address.looksAbsolute]
  have hrooted := Address.head?_takePath hendpoint.rooted
  rw [Feature.ofEndpoint]
  simp [htrimmed, hrelative, Feature.rooted, hrooted]

include hhost

/-- An absolute address brings its base, whatever base is beside it. -/
theorem ofEndpoint_of_httpsBase (method : HttpMethod) (base : Option String) :
    Feature.ofEndpoint (httpsBase host ++ endpoint) method base =
      .ok (Feature.ofParts (Address.takePath endpoint.toList).1
        (Address.takePath endpoint.toList).2 method (some (httpsBase host))) := by
  have htext : (httpsBase host ++ endpoint).toList =
      "https".toList ++ ':' :: '/' :: '/' :: (host.toList ++ endpoint.toList) := by
    simp [httpsBase]
  have hne : endpoint.toList ≠ [] := by
    intro hnil
    have hhead := hendpoint.rooted
    rw [hnil] at hhead
    cases hhead
  -- Nothing is trimmed: the scheme is in front, and the endpoint does not end with a blank.
  have hlast : ∀ c ∈ (httpsBase host ++ endpoint).toList.getLast?, Text.isBlank c = false := by
    rw [String.toList_append, List.getLast?_append_of_ne_nil _ hne]
    exact hendpoint.trimmed
  have hfirst : ∀ c ∈ (httpsBase host ++ endpoint).toList.head?, Text.isBlank c = false := by
    rw [htext]
    rintro c ⟨⟩
    rfl
  have htrimmed := Text.trimWhile_eq_self hfirst hlast
  have habsolute : Address.looksAbsolute (httpsBase host ++ endpoint).toList = true := by
    rw [htext]
    exact Address.looksAbsolute_iff.2 ⟨"https".toList, _, rfl, by decide⟩
  have hrooted := Address.head?_takePath hendpoint.rooted
  have hpath : (Address.takePath endpoint.toList).1.isEmpty = false := by
    obtain ⟨rest, hrest⟩ := List.head?_eq_some_iff.1 hrooted
    rw [hrest]
    rfl
  have hbase : Feature.baseOf ⟨"https".toList, host.toList, (Address.takePath endpoint.toList).1,
      (Address.takePath endpoint.toList).2⟩ = httpsBase host := by
    apply String.toList_injective
    simp [Feature.baseOf, httpsBase]
  rw [Feature.ofEndpoint, htrimmed]
  simp only [habsolute, if_true]
  rw [htext, Address.parse_rooted hhost hendpoint]
  simp only [hpath, hbase]
  rfl

end

/-- With a base the sample is fetched from the base, the path and the query. -/
theorem Feature.fullUrl_of_baseUrl {feature : Feature} {base : String}
    (hbase : feature.baseUrl = some base) (hne : base ≠ "") :
    feature.fullUrl = some (base ++ feature.path ++
      if feature.query = "" then "" else "?" ++ feature.query) := by
  rw [fullUrl, hbase, Option.filter_some_pos (by simpa using hne), Option.map_some]
  split
  · rw [String.append_empty]
  · rw [← String.append_assoc]

/-- **An endpoint is described in one way, however it is written**: as a path with the base beside it,
or as an absolute address that starts with the base. The sample is fetched from the base, the path and
the query, where the base has lost the slashes at its end: these are there only if the host is empty. -/
theorem ofEndpoint_httpsBase {host endpoint : String} (hhost : IsHostName host.toList)
    (hendpoint : IsRootedPath endpoint.toList) (method : HttpMethod) (base : Option String) :
    ∃ feature, Feature.ofEndpoint endpoint method (some (httpsBase host)) = .ok feature ∧
      Feature.ofEndpoint (httpsBase host ++ endpoint) method base = .ok feature ∧
      feature.fullUrl = some ((if host = "" then "https:" else httpsBase host) ++ feature.path ++
        (if feature.query = "" then "" else "?" ++ feature.query)) := by
  refine ⟨_, ofEndpoint_of_isRootedPath hendpoint method (some (httpsBase host)),
    ofEndpoint_of_httpsBase hhost hendpoint method base, ?_⟩
  have hfilled : httpsBase host ≠ "" := by simp [httpsBase]
  apply Feature.fullUrl_of_baseUrl
  · show ((some (httpsBase host)).filter (· ≠ "")).map Text.dropEndSlashes = _
    rw [Option.filter_some_pos (by simpa using hfilled), Option.map_some,
      dropEndSlashes_httpsBase hhost]
  · split
    · decide
    · exact hfilled

/-- Both ways of writing an endpoint with marks, colons and a second address in it. -/
theorem nested_address_described :
    IsHostName "api.x-y.com".toList ∧ IsRootedPath "//a:b;c@d/https://e?f=/?g#h".toList ∧
      ∃ feature,
        Feature.ofEndpoint "//a:b;c@d/https://e?f=/?g#h" .post (some (httpsBase "api.x-y.com")) =
            .ok feature ∧
          Feature.ofEndpoint (httpsBase "api.x-y.com" ++ "//a:b;c@d/https://e?f=/?g#h") .post none =
            .ok feature ∧
          feature.fullUrl = some ((if "api.x-y.com" = "" then "https:" else httpsBase "api.x-y.com") ++
            feature.path ++ (if feature.query = "" then "" else "?" ++ feature.query)) :=
  ⟨by decide, by decide,
    ofEndpoint_httpsBase (by decide) (by decide) .post none⟩

/-- Without a host the slashes of the scheme are the last ones of the base, and they are dropped: the
sample is not fetched from the base and the path as they were given. -/
theorem hostless_base_shortened :
    IsHostName "".toList ∧ IsRootedPath "/users".toList ∧
      ∃ feature, Feature.ofEndpoint "/users" .get (some (httpsBase "")) = .ok feature ∧
        Feature.ofEndpoint (httpsBase "" ++ "/users") .get none = .ok feature ∧
        feature.query = "" ∧ feature.fullUrl = some "https:/users" ∧
        feature.fullUrl ≠ some (httpsBase "" ++ feature.path) := by
  refine ⟨by decide, by decide,
    ⟨"users", "Users", "/users", .get, some "https:", ""⟩, ?_, ?_, ?_⟩
  · rfl
  · rfl
  · decide

end DartLayers
