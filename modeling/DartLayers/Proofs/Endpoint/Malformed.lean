import DartLayers.Proofs.Endpoint.Query
import DartLayers.Proofs.Text.Cases

/-!
# DartLayers — malformed addresses

An endpoint that is no absolute address is always described. An absolute one is refused for its
authority only: its brackets do not belong together or hold no address that may stand in them, or one
of its characters is a delimiter in disguise. Here the refusal is spelled out in terms of the text.

* **`Host.isBracketed_iff`** — hosts that may stand in brackets.
* **`Address.HoldsHost`**, **`Address.IsMalformed`** — the form of an authority.
* **`Address.exists_fault_iff`** — an authority is refused exactly if it is malformed.
* **`ofEndpoint_error_iff`** — an endpoint is refused exactly for such an authority.
* **`Feature.names_ne_empty`** — the names in a description are not empty.
-/

namespace DartLayers

namespace Text

/-! ## Pieces of a text -/

/-- A character of a text is a separator or stands in a piece. -/
theorem mem_splitOn {separator c : Char} {text : List Char} (h : c ∈ text) :
    c = separator ∨ ∃ piece ∈ splitOn separator text, c ∈ piece := by
  rw [splitOn_eq] at *
  refine Classical.or_iff_not_imp_left.2 fun hc => ?_
  have htext : [separator].intercalate (text.splitOn separator) = text :=
    List.intercalate_splitOn separator
  rw [← htext] at h
  rcases mem_intercalate h with hseparator | hpiece
  · exact absurd (List.mem_singleton.1 hseparator) hc
  · exact hpiece

/-- A cut is made at the first separator, if there is one. -/
theorem cutAt_cases (separator : Char) (text : List Char) :
    (∃ before after, separator ∉ before ∧ text = before ++ separator :: after ∧
        cutAt separator text = (before, some after)) ∨
      (separator ∉ text ∧ cutAt separator text = (text, none)) := by
  induction text with
  | nil => exact .inr ⟨List.not_mem_nil, rfl⟩
  | cons c rest ih =>
    by_cases hc : c = separator
    · exact .inl ⟨[], rest, List.not_mem_nil, by rw [hc]; rfl, by rw [cutAt, if_pos hc]⟩
    · rcases ih with ⟨before, after, hbefore, rfl, hcut⟩ | ⟨hrest, hcut⟩
      · refine .inl ⟨c :: before, after, ?_, rfl, by rw [cutAt, if_neg hc, hcut]⟩
        rw [List.mem_cons, not_or]
        exact ⟨Ne.symm hc, hbefore⟩
      · refine .inr ⟨?_, by rw [cutAt, if_neg hc, hcut]⟩
        rw [List.mem_cons, not_or]
        exact ⟨Ne.symm hc, hrest⟩

theorem cutAt_append_cons {separator : Char} {before : List Char} (h : separator ∉ before)
    (after : List Char) : cutAt separator (before ++ separator :: after) = (before, some after) := by
  induction before with
  | nil => rw [List.nil_append, cutAt, if_pos rfl]
  | cons c before ih =>
    rw [List.mem_cons, not_or] at h
    rw [List.cons_append, cutAt, if_neg (Ne.symm h.1), ih h.2]

end Text

/-! ## Hosts -/

namespace Host

/-- A host that may stand in brackets. -/
def IsBracketed (host : List Char) : Prop :=
  isIpv6 host = true ∨ isFutureAddress host = true

/-- An IPv4 ending leaves the first group alone. -/
theorem groupsOf?_eq_some {text first : List Char} {others pieces : List (List Char)}
    (hsplit : Text.splitOn ':' text = first :: others) (h : groupsOf? text = some pieces) :
    3 ≤ (Text.splitOn ':' text).length ∧ ∃ more, pieces = first :: more := by
  unfold groupsOf? at h
  rw [hsplit] at h ⊢
  dsimp only at h
  split at h
  · cases h
  · split at h
    · cases h
    · rename_i hlength
      refine ⟨Nat.not_lt.1 hlength, ?_⟩
      split at h
      · cases h
        exact ⟨others, rfl⟩
      · split at h
        · cases h
          cases others with
          | nil => simp at hlength
          | cons next others => exact ⟨_, by rw [List.dropLast_cons_cons, List.cons_append]⟩
        · cases h

/-- What stands before the first colon of an IPv6 address is a group, unless it is empty. -/
theorem isGroup_of_isUnzonedIpv6 {text first : List Char} {others : List (List Char)}
    (hsplit : Text.splitOn ':' text = first :: others) (hne : first ≠ [])
    (h : isUnzonedIpv6 text = true) : isGroup first = true := by
  unfold isUnzonedIpv6 at h
  split at h
  · cases h
  · rename_i pieces hpieces
    obtain ⟨-, more, rfl⟩ := groupsOf?_eq_some hsplit hpieces
    rw [Bool.and_eq_true] at h
    obtain ⟨-, h⟩ := h
    split at h
    · rw [areAllGroups, Bool.and_eq_true, List.all_cons, Bool.and_eq_true] at h
      exact h.2.1
    · rename_i gap hgap
      -- the run that was left out is not the first piece
      have hinner : gap ∈ innerGaps (first :: more) := by rw [hgap]; exact List.mem_singleton_self gap
      have hpositive : 0 < gap := by
        rw [innerGaps, List.mem_filter, Bool.and_eq_true, Bool.and_eq_true] at hinner
        simpa using hinner.2.1.1
      obtain ⟨place, rfl⟩ : ∃ place, gap = place + 1 := ⟨gap - 1, by omega⟩
      have hleading : ((first :: List.take place more) == [[]]) = false := by
        rw [beq_eq_false_iff_ne]
        intro hsame
        exact hne (List.cons.inj hsame).1
      rw [List.take_succ_cons, areGroupsAround, hleading] at h
      simp only [Bool.false_eq_true, if_false, List.all_cons, Bool.and_eq_true] at h
      exact h.1.2.1
    · cases h

/-- An IPv6 address starts with no letter that is not a hexadecimal digit. -/
theorem isIpv6_cons {c : Char} {rest : List Char} (hcolon : c ≠ ':') (hpercent : c ≠ '%')
    (h : isIpv6 (c :: rest) = true) : isHexDigit c = true := by
  have hcut : ∃ address zone, Text.cutAt '%' (c :: rest) = (c :: address, zone) :=
    ⟨_, _, by rw [Text.cutAt, if_neg hpercent]⟩
  obtain ⟨address, zone, hcut⟩ := hcut
  have haddress : isUnzonedIpv6 (c :: address) = true := by
    rw [isIpv6, hcut] at h
    cases zone with
    | none => exact h
    | some zone =>
      dsimp only at h
      rw [Bool.and_eq_true] at h
      exact h.2
  have hsplit : ∃ piece others, Text.splitOn ':' (c :: address) = (c :: piece) :: others := by
    rw [Text.splitOn, if_neg hcolon]
    cases Text.splitOn ':' address with
    | nil => exact ⟨[], [], rfl⟩
    | cons piece others => exact ⟨piece, others, rfl⟩
  obtain ⟨piece, others, hsplit⟩ := hsplit
  have hgroup := isGroup_of_isUnzonedIpv6 hsplit (List.cons_ne_nil c piece) haddress
  simp only [isGroup, List.all_cons, Bool.and_eq_true] at hgroup
  exact hgroup.2.1

/-- An IPv4 address is made of digits and points. -/
theorem isDigit_of_isIpv4 {host : List Char} (h : isIpv4 host = true) :
    ∀ c ∈ host, c = '.' ∨ c.isDigit = true := by
  rw [isIpv4, Bool.and_eq_true, List.all_eq_true] at h
  intro c hc
  have hplace : c = '.' ∨ ∃ piece ∈ Text.splitOn '.' host, c ∈ piece := Text.mem_splitOn hc
  refine hplace.imp_right ?_
  rintro ⟨piece, hpiece, hmem⟩
  have hoctet := h.2 piece hpiece
  simp only [isOctet, Bool.and_eq_true, List.all_eq_true] at hoctet
  exact hoctet.1.1.1.2 c hmem

/-- No address is of both kinds. -/
theorem isIpv6_of_isIpv4 {host : List Char} (h : isIpv4 host = true) : isIpv6 host = false := by
  have hmarks : ':' ∉ host ∧ '%' ∉ host := by
    constructor <;> intro hmem <;>
      exact absurd (isDigit_of_isIpv4 h _ hmem) (by decide)
  simp [isIpv6, isUnzonedIpv6, groupsOf?, Text.cutAt_of_notMem hmarks.2,
    Text.splitOn_of_notMem hmarks.1]

/-- **Which hosts may stand in brackets**: the two kinds are told apart by the first letter. -/
theorem isBracketed_iff {host : List Char} :
    Address.bracketedHostFault? host = none ↔ IsBracketed host := by
  unfold Address.bracketedHostFault?
  rw [IsBracketed]
  split
  · rename_i hhead
    obtain ⟨rest, rfl⟩ := List.head?_eq_some_iff.1 (beq_iff_eq.1 hhead)
    have hnot : ¬ isIpv6 ('v' :: rest) = true := by
      intro h
      exact absurd (isIpv6_cons (by decide) (by decide) h) (by decide)
    simp [hnot]
  · rename_i hhead
    have hfuture : ¬ isFutureAddress host = true := by
      intro h
      unfold isFutureAddress at h
      split at h
      · exact hhead rfl
      · cases h
    split
    · rename_i hipv4
      simp [hfuture, isIpv6_of_isIpv4 hipv4]
    · split <;> simp_all

end Host

/-! ## Authorities -/

namespace Address

/-- A host and a port whose host may stand in brackets. The brackets that are missing here are in the
part of the authority before an at sign. -/
inductive HoldsHost : List Char → Prop
  | closed (host port : List Char) (hhost : Host.IsBracketed host) (hclose : ']' ∉ host)
      (hport : ∀ c ∈ port.head?, c = ':') : HoldsHost ('[' :: (host ++ ']' :: port))
  | unclosed (host : List Char) (hhost : Host.IsBracketed host) (hclose : ']' ∉ host) :
      HoldsHost ('[' :: host)
  | bare (host port : List Char) (hhost : Host.IsBracketed host) (hopen : '[' ∉ host ++ port)
      (hcolon : ':' ∉ host) (hport : ∀ c ∈ port.head?, c = ':') : HoldsHost (host ++ port)

/-- An authority is malformed: it has one bracket without the other, its brackets hold no host that may
stand in them, or a character of it is a delimiter in disguise. -/
def IsMalformed (authority : List Char) : Prop :=
  ('[' ∈ authority ∧ ']' ∉ authority ∨ '[' ∉ authority ∧ ']' ∈ authority) ∨
    ('[' ∈ authority ∧ ']' ∈ authority ∧ ¬ HoldsHost (hostAndPort authority)) ∨
      ∃ c ∈ authority, c.toNat ∈ disguisedDelimiters

/-- A text after an opening bracket is fine if its host is, and if a port is all that follows. -/
theorem holdsHost_cons_iff {text : List Char} :
    HoldsHost ('[' :: text) ↔
      (∃ host port, text = host ++ ']' :: port ∧ Host.IsBracketed host ∧ ']' ∉ host ∧
        ∀ c ∈ port.head?, c = ':') ∨ (Host.IsBracketed text ∧ ']' ∉ text) := by
  constructor
  · intro h
    generalize hwhole : '[' :: text = whole at h
    cases h with
    | closed host port hhost hclose hport =>
      exact .inl ⟨host, port, (List.cons.inj hwhole).2, hhost, hclose, hport⟩
    | unclosed host hhost hclose =>
      cases hwhole
      exact .inr ⟨hhost, hclose⟩
    | bare host port hhost hopen hcolon hport =>
      rw [← hwhole] at hopen
      exact absurd List.mem_cons_self hopen
  · rintro (⟨host, port, rfl, hhost, hclose, hport⟩ | ⟨hhost, hclose⟩)
    · exact .closed host port hhost hclose hport
    · exact .unclosed text hhost hclose

/-- Without an opening bracket the host ends at the first colon. -/
theorem holdsHost_iff_of_notMem {text : List Char} (h : '[' ∉ text) :
    HoldsHost text ↔ Host.IsBracketed (Text.cutAt ':' text).1 := by
  constructor
  · intro hholds
    cases hholds with
    | closed => exact absurd List.mem_cons_self h
    | unclosed => exact absurd List.mem_cons_self h
    | bare host port hhost hopen hcolon hport =>
      cases port with
      | nil => rwa [List.append_nil, Text.cutAt_of_notMem hcolon]
      | cons c port =>
        obtain rfl := hport c rfl
        rwa [Text.cutAt_append_cons hcolon]
  · intro hhost
    rcases Text.cutAt_cases ':' text with ⟨host, port, hcolon, rfl, hcut⟩ | ⟨hcolon, hcut⟩
    · rw [hcut] at hhost
      exact .bare host (':' :: port) hhost h hcolon (by simp)
    · rw [hcut] at hhost
      have hbare := HoldsHost.bare text [] hhost (by rwa [List.append_nil]) hcolon (by simp)
      rwa [List.append_nil] at hbare

/-- **Brackets hold a host that may stand in them** exactly if nothing is wrong with them. -/
theorem bracketedFault?_eq_none_iff {authority : List Char} :
    bracketedFault? authority = none ↔ HoldsHost (hostAndPort authority) := by
  rw [bracketedFault?]
  generalize hostAndPort authority = text
  -- The text is cut at its first opening bracket, and what is behind it at the first closing one.
  rcases Text.cutAt_cases '[' text with ⟨before, after, hopen, rfl, hcut⟩ | ⟨hopen, hcut⟩
  · rw [hcut]
    cases before with
    -- Nothing may stand in front of the opening bracket.
    | cons c before =>
      refine iff_of_false (by simp) fun hholds => ?_
      rw [List.mem_cons, not_or] at hopen
      generalize hsame : c :: before ++ '[' :: after = whole at hholds
      cases hholds with
      | closed => exact hopen.1 (List.cons.inj hsame).1.symm
      | unclosed => exact hopen.1 (List.cons.inj hsame).1.symm
      | bare host port _ hnone => exact hnone (by rw [← hsame]; simp)
    | nil =>
      rw [List.nil_append, holdsHost_cons_iff]
      dsimp only
      rcases Text.cutAt_cases ']' after with
        ⟨host, port, hclose, rfl, hclosed⟩ | ⟨hclose, hunclosed⟩
      · rw [hclosed]
        -- The host is what the first closing bracket ends, so it is the one of every other reading.
        have hfirst : ∀ others more, host ++ ']' :: port = others ++ ']' :: more →
            ']' ∉ others → others = host ∧ more = port := by
          intro others more hsame hnone
          have hagain := Text.cutAt_append_cons hnone more
          rw [← hsame, hclosed] at hagain
          cases hagain
          exact ⟨rfl, rfl⟩
        cases port with
        | nil =>
          dsimp only
          rw [Host.isBracketed_iff]
          constructor
          · exact fun hhost => .inl ⟨host, [], rfl, hhost, hclose, by simp⟩
          · rintro (⟨others, more, hsame, hhost, hnone, -⟩ | ⟨-, hnone⟩)
            · rwa [← (hfirst others more hsame hnone).1]
            · exact absurd (by simp) hnone
        | cons c port =>
          dsimp only
          split
          · rename_i hc
            rw [Host.isBracketed_iff]
            constructor
            · refine fun hhost => .inl ⟨host, c :: port, rfl, hhost, hclose, ?_⟩
              simpa using hc
            · rintro (⟨others, more, hsame, hhost, hnone, -⟩ | ⟨-, hnone⟩)
              · rwa [← (hfirst others more hsame hnone).1]
              · exact absurd (by simp) hnone
          · rename_i hc
            refine iff_of_false (by simp) ?_
            rintro (⟨others, more, hsame, -, hnone, hport⟩ | ⟨-, hnone⟩)
            · obtain ⟨-, rfl⟩ := hfirst others more hsame hnone
              exact hc (by simpa using hport c rfl)
            · exact hnone (by simp)
      · rw [hunclosed]
        dsimp only
        rw [Host.isBracketed_iff]
        constructor
        · -- Without a closing bracket all of the rest is the host.
          exact fun hhost => .inr ⟨hhost, hclose⟩
        · rintro (⟨host, port, rfl, -⟩ | ⟨hhost, -⟩)
          · exact absurd (by simp) hclose
          · exact hhost
  · rw [hcut, holdsHost_iff_of_notMem hopen]
    cases text <;> exact Host.isBracketed_iff

/-- **An authority is refused exactly if it is malformed.** -/
theorem exists_fault_iff {authority : List Char} :
    (∃ fault, authorityFault? authority = some fault) ↔ IsMalformed authority := by
  have hdisguised : (authority.any fun c => disguisedDelimiters.contains c.toNat) = true ↔
      ∃ c ∈ authority, c.toNat ∈ disguisedDelimiters := by simp
  rw [IsMalformed, ← bracketedFault?_eq_none_iff, ← hdisguised, authorityFault?]
  by_cases hopen : '[' ∈ authority <;> by_cases hclose : ']' ∈ authority
  · cases hfault : bracketedFault? authority with
    | none =>
      cases (authority.any fun c => disguisedDelimiters.contains c.toNat) <;>
        simp [hopen, hclose]
    | some fault => simp [hopen, hclose]
  · simp [hopen, hclose]
  · simp [hopen, hclose]
  · cases (authority.any fun c => disguisedDelimiters.contains c.toNat) <;> simp [hopen, hclose]

/-! ## Addresses -/

/-- The authority in what follows the scheme and two slashes. -/
def authorityOf (rest : List Char) : List Char :=
  (rest.filter fun c => !isIgnored c).takeWhile fun c => !endsAuthority c

/-- The scheme `http` or `https`, in any case. -/
def IsHttp (scheme : List Char) : Prop :=
  scheme.map Char.toLower ∈ ["http".toList, "https".toList]

theorem isAlpha_of_isHttp {scheme : List Char} (h : IsHttp scheme) :
    ∀ c ∈ scheme, c.isAlpha = true := by
  have hletters : ∀ word ∈ ["http".toList, "https".toList], ∀ c ∈ word, c.isAlpha = true := by
    simp
  intro c hc
  have hlower := hletters _ h c.toLower (List.mem_map_of_mem hc)
  rwa [Char.isAlpha_toLower_eq_isAlpha] at hlower

theorem colon_notMem_of_isHttp {scheme : List Char} (h : IsHttp scheme) : ':' ∉ scheme :=
  fun hmem => absurd (isAlpha_of_isHttp h _ hmem) (by decide)

theorem colon_notMem_append_longS {front : List Char} (h : front.map Char.toLower = "http".toList) :
    ':' ∉ front ++ [longS] := by
  rw [List.mem_append, List.mem_singleton, not_or]
  exact ⟨colon_notMem_of_isHttp (by rw [IsHttp, h]; simp), by decide⟩

/-- A scheme with a long s is neither of the two: a text is cut at its first colon in one way only. -/
theorem not_isHttp_of_longS {front scheme rest more : List Char}
    (h : front.map Char.toLower = "http".toList)
    (hsame : front ++ longS :: ':' :: rest = scheme ++ ':' :: more) : ¬ IsHttp scheme := by
  intro hhttp
  have hcut := Text.cutAt_append_cons (colon_notMem_append_longS h) rest
  rw [List.append_assoc, List.singleton_append, hsame,
    Text.cutAt_append_cons (colon_notMem_of_isHttp hhttp)] at hcut
  cases hcut
  exact absurd (isAlpha_of_isHttp hhttp longS (by simp)) (by decide)

/-- A scheme of the web is one of the two, or ends with a long s, which is no character of a
scheme. -/
theorem isWebScheme_cases {scheme : List Char} (h : isWebScheme scheme = true) :
    IsHttp scheme ∨ ∃ front, scheme = front ++ [longS] ∧ front.map Char.toLower = "http".toList := by
  rw [isWebScheme, Bool.and_eq_true, beq_iff_eq] at h
  obtain ⟨hfour, hrest⟩ := h
  have hsplit : scheme = scheme.take 4 ++ scheme.drop 4 := (List.take_append_drop 4 scheme).symm
  split at hrest
  · rename_i hdrop
    rw [hdrop, List.append_nil] at hsplit
    refine .inl ?_
    rw [IsHttp, hsplit, hfour]
    simp
  · rename_i s hdrop
    rw [hdrop] at hsplit
    rw [Bool.or_eq_true, beq_iff_eq, beq_iff_eq] at hrest
    rcases hrest with hs | rfl
    · refine .inl ?_
      rw [IsHttp, hsplit, List.map_append, hfour, List.map_singleton, hs]
      simp
    · exact .inr ⟨_, hsplit, hfour⟩
  · cases hrest

theorem isWebScheme_of_isHttp {scheme : List Char} (h : IsHttp scheme) :
    isWebScheme scheme = true := by
  rw [IsHttp, List.mem_cons, List.mem_singleton] at h
  have hfour : (scheme.take 4).map Char.toLower = "http".toList := by
    rw [List.map_take]
    rcases h with h | h <;> rw [h] <;> rfl
  have hdrop : (scheme.drop 4).map Char.toLower = [] ∨ (scheme.drop 4).map Char.toLower = ['s'] := by
    rw [List.map_drop]
    rcases h with h | h <;> rw [h]
    · exact .inl rfl
    · exact .inr rfl
  rw [isWebScheme, hfour]
  rcases hdrop with hnil | hone
  · rw [List.map_eq_nil_iff.1 hnil]
    rfl
  · obtain ⟨s, hs, hlower⟩ := List.map_eq_singleton_iff.1 hone
    rw [hs]
    simp [hlower]

/-- A scheme with a long s is one of the web where case is disregarded. -/
theorem isWebScheme_append_longS {front : List Char}
    (h : front.map Char.toLower = "http".toList) : isWebScheme (front ++ [longS]) = true := by
  have hlength : front.length = 4 := by
    rw [← List.length_map, h]
    rfl
  rw [isWebScheme, List.take_left' hlength, List.drop_left' hlength, h]
  decide

/-- Letters are not ignored. -/
theorem filter_append_of_isAlpha {scheme : List Char} (h : ∀ c ∈ scheme, c.isAlpha = true)
    (rest : List Char) :
    (scheme ++ rest).filter (fun c => !isIgnored c) =
      scheme ++ rest.filter fun c => !isIgnored c := by
  have hkept : ∀ c ∈ scheme, (!isIgnored c) = true := by
    intro c hc
    have halpha := h c hc
    rw [Bool.not_eq_true', ← Bool.not_eq_true]
    intro hignored
    simp only [isIgnored, Bool.or_eq_true, beq_iff_eq] at hignored
    rcases hignored with (rfl | rfl) | rfl <;> exact absurd halpha (by decide)
  rw [List.filter_append, List.filter_eq_self.2 hkept]

/-- The scheme of an address on the web is what stands before its first colon. -/
theorem takeScheme_of_isHttp {scheme : List Char} (h : IsHttp scheme) (rest : List Char) :
    takeScheme (scheme ++ ':' :: rest) = (scheme.map Char.toLower, rest) := by
  have halpha := isAlpha_of_isHttp h
  have hcolon := colon_notMem_of_isHttp h
  cases scheme with
  | nil => exact absurd h (by simp [IsHttp])
  | cons c others =>
    have hothers : others.all isSchemeChar = true := List.all_eq_true.2 fun d hd => by
      simp [isSchemeChar, Char.isAlphanum, halpha d (List.mem_cons_of_mem c hd)]
    rw [takeScheme, Text.cutAt_append_cons hcolon]
    simp [halpha c List.mem_cons_self, hothers]

/-- **An address is refused for its authority** and for nothing else. -/
theorem parse_error_iff_of_isHttp {scheme : List Char} (h : IsHttp scheme) (rest : List Char)
    (fault : AddressFault) :
    parse (scheme ++ ':' :: '/' :: '/' :: rest) = .error fault ↔
      authorityFault? (authorityOf rest) = some fault := by
  have hmark : (':' :: '/' :: '/' :: rest).filter (fun c => !isIgnored c) =
      ':' :: '/' :: '/' :: rest.filter fun c => !isIgnored c := rfl
  rw [parse, filter_append_of_isAlpha (isAlpha_of_isHttp h), hmark, takeScheme_of_isHttp h]
  simp only [takeAuthority]
  rw [authorityOf]
  cases authorityFault? ((rest.filter fun c => !isIgnored c).takeWhile fun c => !endsAuthority c) with
  | none => simp
  | some other => simp

/-- An address without a scheme has no authority that could be refused. -/
theorem parse_ok_of_longS {front : List Char} (h : front.map Char.toLower = "http".toList)
    (rest : List Char) :
    ∃ address, parse (front ++ longS :: ':' :: '/' :: '/' :: rest) = .ok address := by
  have halpha : ∀ c ∈ front, c.isAlpha = true := isAlpha_of_isHttp (by rw [IsHttp, h]; simp)
  cases front with
  | nil => cases h
  | cons c others =>
    have hcolon := colon_notMem_append_longS h
    have hscheme : ∀ after, takeScheme (c :: others ++ longS :: ':' :: after) =
        ([], c :: others ++ longS :: ':' :: after) := by
      intro after
      have hcut := Text.cutAt_append_cons hcolon after
      rw [List.append_assoc, List.singleton_append, List.cons_append] at hcut
      have hlong : isSchemeChar longS = false := by decide
      rw [List.cons_append, takeScheme, hcut]
      simp [hlong]
    have hslash : c ≠ '/' := fun hc => absurd (halpha c List.mem_cons_self) (by rw [hc]; decide)
    have hmark : (longS :: ':' :: '/' :: '/' :: rest).filter (fun c => !isIgnored c) =
        longS :: ':' :: '/' :: '/' :: rest.filter fun c => !isIgnored c := rfl
    have hauthority : ∀ after, takeAuthority (c :: after) = ([], c :: after) := by
      intro after
      unfold takeAuthority
      split
      · rename_i hsame
        exact absurd (List.cons.inj hsame).1 hslash
      · rfl
    rw [parse, filter_append_of_isAlpha halpha, hmark, hscheme, List.cons_append]
    simp only [hauthority]
    exact ⟨_, rfl⟩

end Address

/-! ## Endpoints -/

/-- An endpoint that is an address on the web with a malformed authority. -/
def IsMalformedEndpoint (endpoint : String) : Prop :=
  ∃ scheme rest, Text.trimWhile Text.isBlank endpoint.toList = scheme ++ ':' :: '/' :: '/' :: rest ∧
    Address.IsHttp scheme ∧ Address.IsMalformed (Address.authorityOf rest)

/-- **An endpoint is refused exactly for a malformed authority.** Any other endpoint is described. -/
theorem ofEndpoint_error_iff (endpoint : String) (method : HttpMethod) (base : Option String) :
    (∃ fault, Feature.ofEndpoint endpoint method base = .error fault) ↔
      IsMalformedEndpoint endpoint := by
  rw [IsMalformedEndpoint, Feature.ofEndpoint]
  generalize Text.trimWhile Text.isBlank endpoint.toList = text
  by_cases habsolute : Address.looksAbsolute text = true
  · obtain ⟨scheme, rest, rfl, hscheme⟩ := Address.looksAbsolute_iff.1 habsolute
    rw [if_pos habsolute]
    rcases Address.isWebScheme_cases hscheme with hhttp | ⟨front, rfl, hfront⟩
    · have hparse : (∃ fault, Address.parse (scheme ++ ':' :: '/' :: '/' :: rest) = .error fault) ↔
          Address.IsMalformed (Address.authorityOf rest) := by
        rw [← Address.exists_fault_iff]
        exact exists_congr fun fault => Address.parse_error_iff_of_isHttp hhttp rest fault
      trans Address.IsMalformed (Address.authorityOf rest)
      · rw [← hparse]
        cases Address.parse (scheme ++ ':' :: '/' :: '/' :: rest) <;> simp
      · constructor
        · exact fun hmalformed => ⟨scheme, rest, rfl, hhttp, hmalformed⟩
        · rintro ⟨other, more, hsame, hother, hmalformed⟩
          -- the text is cut at its first colon in one way only
          have hcut := Text.cutAt_append_cons (Address.colon_notMem_of_isHttp hhttp)
            ('/' :: '/' :: rest)
          rw [hsame, Text.cutAt_append_cons (Address.colon_notMem_of_isHttp hother)] at hcut
          cases hcut
          exact hmalformed
    · rw [List.append_assoc, List.singleton_append]
      obtain ⟨address, haddress⟩ := Address.parse_ok_of_longS hfront rest
      rw [haddress]
      refine iff_of_false (by simp) ?_
      rintro ⟨other, more, hsame, hother, -⟩
      exact Address.not_isHttp_of_longS hfront hsame hother
  · rw [if_neg habsolute]
    refine iff_of_false (by simp) ?_
    rintro ⟨scheme, rest, rfl, hhttp, -⟩
    exact habsolute (Address.looksAbsolute_iff.2
      ⟨scheme, rest, rfl, Address.isWebScheme_of_isHttp hhttp⟩)

/-- An endpoint that is not malformed is described, whatever the method and the base. -/
theorem exists_ofEndpoint_eq_ok {endpoint : String} (h : ¬ IsMalformedEndpoint endpoint)
    (method : HttpMethod) (base : Option String) :
    ∃ feature, Feature.ofEndpoint endpoint method base = .ok feature := by
  cases hfound : Feature.ofEndpoint endpoint method base with
  | ok feature => exact ⟨feature, rfl⟩
  | error fault => exact absurd ((ofEndpoint_error_iff endpoint method base).1 ⟨fault, hfound⟩) h

/-- **The names in a description are not empty.** -/
theorem Feature.names_ne_empty {endpoint : String} {method : HttpMethod} {base : Option String}
    {feature : Feature} (h : Feature.ofEndpoint endpoint method base = .ok feature) :
    feature.name ≠ "" ∧ feature.pascalName ≠ "" := by
  have hnames := Feature.isNamed_of_ofEndpoint h
  exact ⟨hnames.isWord.1, hnames.isClassName.ne_empty⟩

end DartLayers
