import DartLayers.Endpoint.Feature
import Mathlib.Data.List.Basic

/-!
# DartLayers — queries and fragments of endpoints

A query starts at a question mark, a fragment at a hash sign. Both end an endpoint, whether it is a
path or an absolute address: what stands behind the mark decides nothing but the query that is kept
apart.

* **`StartsQuery`** — a text that begins with one of the two marks, if it is not empty.
* **`ofEndpoint_append`** — an endpoint with such a text behind it.
-/

namespace DartLayers

/-- A text is empty or begins with the mark of a query or of a fragment. -/
def StartsQuery (text : List Char) : Prop :=
  ∀ c ∈ text.head?, c = '?' ∨ c = '#'

instance (text : List Char) : Decidable (StartsQuery text) :=
  -- by the head alone, not by trying every character
  (Option.decidableForallMem text.head? : Decidable (∀ c ∈ text.head?, c = '?' ∨ c = '#'))

/-- A text without the mark of a query or of a fragment. -/
def IsUnmarked (text : List Char) : Prop :=
  '?' ∉ text ∧ '#' ∉ text

instance (text : List Char) : Decidable (IsUnmarked text) :=
  inferInstanceAs (Decidable (_ ∧ _))

theorem StartsQuery.of_prefix {text front : List Char} (h : StartsQuery text)
    (hfront : front <+: text) : StartsQuery front := by
  intro c hc
  obtain ⟨rest, rfl⟩ := hfront
  exact h c (List.mem_head?_append_of_mem_head? hc)

theorem IsUnmarked.of_subset {text part : List Char} (h : IsUnmarked text) (hpart : part ⊆ text) :
    IsUnmarked part :=
  ⟨fun hmem => h.1 (hpart hmem), fun hmem => h.2 (hpart hmem)⟩

@[simp] theorem isUnmarked_append {text rest : List Char} :
    IsUnmarked (text ++ rest) ↔ IsUnmarked text ∧ IsUnmarked rest := by
  simp only [IsUnmarked, List.mem_append, not_or]
  tauto

namespace Text

/-! ## Cutting and trimming -/

/-- A cut is made in the first of two texts if the separator is there. -/
theorem cutAt_append_of_mem {separator : Char} {text : List Char} (h : separator ∈ text)
    (rest : List Char) :
    cutAt separator (text ++ rest) =
      ((cutAt separator text).1, (cutAt separator text).2.map (· ++ rest)) := by
  induction text with
  | nil => cases h
  | cons c text ih =>
    rw [List.cons_append, cutAt, cutAt]
    split
    · rfl
    · rename_i hc
      rw [ih ((List.mem_cons.1 h).resolve_left (Ne.symm hc))]

theorem cutAt_of_notMem {separator : Char} {text : List Char} (h : separator ∉ text) :
    cutAt separator text = (text, none) := by
  induction text with
  | nil => rfl
  | cons c text ih =>
    rw [List.mem_cons, not_or] at h
    rw [cutAt, if_neg (Ne.symm h.1), ih h.2]

theorem cutAt_append_of_notMem {separator : Char} {text : List Char} (h : separator ∉ text)
    (rest : List Char) :
    (cutAt separator (text ++ rest)).1 = text ++ (cutAt separator rest).1 := by
  induction text with
  | nil => rfl
  | cons c text ih =>
    rw [List.mem_cons, not_or] at h
    rw [List.cons_append, cutAt, if_neg (Ne.symm h.1), List.cons_append, ← ih h.2]

section

variable {p : Char → Bool}

theorem isPrefix_dropEndWhile (text : List Char) : dropEndWhile p text <+: text := by
  rw [dropEndWhile, ← List.reverse_suffix, List.reverse_reverse]
  exact List.dropWhile_suffix p

/-- A trimmed text has nothing to drop at either end. -/
theorem eq_of_trimWhile_eq {text : List Char} (h : trimWhile p text = text) :
    text.dropWhile p = text ∧ dropEndWhile p text = text := by
  have hsuffix : text.dropWhile p <:+ text := List.dropWhile_suffix p
  have hlength : text.length ≤ (text.dropWhile p).length := by
    have hfront := (isPrefix_dropEndWhile (p := p) (text.dropWhile p)).length_le
    rwa [← trimWhile, h] at hfront
  have hdrop : text.dropWhile p = text := hsuffix.eq_of_length_le hlength
  refine ⟨hdrop, ?_⟩
  rwa [trimWhile, hdrop] at h

/-- A text that starts with a character outside of a class adds nothing to what is taken. -/
theorem takeWhile_append_of_head {rest : List Char} (h : ∀ c ∈ rest.head?, p c = false)
    (text : List Char) : (text ++ rest).takeWhile p = text.takeWhile p := by
  induction text with
  | nil =>
    cases rest with
    | nil => rfl
    | cons c rest => exact List.takeWhile_cons_of_neg (by simp [h c rfl])
  | cons first text ih => rw [List.cons_append, List.takeWhile_cons, List.takeWhile_cons, ih]

theorem dropWhile_append_of_head {rest : List Char} (h : ∀ c ∈ rest.head?, p c = false)
    (text : List Char) : (text ++ rest).dropWhile p = text.dropWhile p ++ rest := by
  induction text with
  | nil =>
    cases rest with
    | nil => rfl
    | cons c rest => exact List.dropWhile_cons_of_neg (by simp [h c rfl])
  | cons first text ih =>
    rw [List.cons_append, List.dropWhile_cons, List.dropWhile_cons, ih]
    split <;> rfl

/-- Behind a trimmed text only the end of what follows is trimmed, if that starts with a character
that is kept. -/
theorem trimWhile_append {text : List Char} (htext : trimWhile p text = text) {rest : List Char}
    (hrest : ∀ c ∈ rest.head?, p c = false) :
    trimWhile p (text ++ rest) = text ++ dropEndWhile p rest := by
  obtain ⟨hfront, hback⟩ := eq_of_trimWhile_eq htext
  have hdrop : (text ++ rest).dropWhile p = text ++ rest := by
    rw [dropWhile_append_of_head hrest, hfront]
  cases rest with
  | nil =>
    rw [List.append_nil, htext]
    exact (List.append_nil text).symm
  | cons c rest =>
    have hc : p c = false := hrest c rfl
    -- the kept character stops the trimming from the end
    have hkept : ¬ ((c :: rest).reverse.dropWhile p).isEmpty = true := by
      rw [List.reverse_cons, List.dropWhile_append]
      split <;> simp_all
    rw [trimWhile, hdrop, dropEndWhile, dropEndWhile, List.reverse_append, List.dropWhile_append,
      if_neg hkept, List.reverse_append, List.reverse_reverse]

end

end Text

/-! ## Addresses -/

namespace Address

/-- Whether a text is the scheme of an address on the web, `http` or `https` in any case. -/
def isWebScheme (scheme : List Char) : Bool :=
  (scheme.take 4).map Char.toLower == "http".toList &&
    match scheme.drop 4 with
    | [] => true
    | [s] => s.toLower == 's' || s == longS
    | _ => false

/-- An absolute address starts with such a scheme and what separates it from the authority. -/
theorem looksAbsolute_iff {text : List Char} :
    looksAbsolute text = true ↔
      ∃ scheme rest, text = scheme ++ ':' :: '/' :: '/' :: rest ∧ isWebScheme scheme = true := by
  constructor
  · intro h
    rw [looksAbsolute, Bool.and_eq_true] at h
    obtain ⟨hfour, hrest⟩ := h
    -- The first four characters are h, t, t and p in any case; behind them there may be one s.
    have hlength : (text.take 4).length = 4 := by
      rw [← List.length_map (f := Char.toLower), beq_iff_eq.1 hfour]
      rfl
    split at hrest
    · rename_i rest hdrop
      refine ⟨text.take 4, rest, ?_, ?_⟩
      · rw [← hdrop, List.take_append_drop]
      · rw [isWebScheme, List.take_take, Nat.min_self, hfour, List.drop_eq_nil_of_le (Nat.le_of_eq hlength)]
        rfl
    · rename_i s rest hdrop
      refine ⟨text.take 4 ++ [s], rest, ?_, ?_⟩
      · rw [List.append_assoc, List.singleton_append, ← hdrop, List.take_append_drop]
      · rw [isWebScheme, List.take_left' hlength, List.drop_left' hlength, hfour]
        exact hrest
    · cases hrest
  · rintro ⟨scheme, rest, rfl, hscheme⟩
    rw [isWebScheme, Bool.and_eq_true] at hscheme
    obtain ⟨hfour, hrest⟩ := hscheme
    have hlength : (scheme.take 4).length = 4 := by
      rw [← List.length_map (f := Char.toLower), beq_iff_eq.1 hfour]
      rfl
    have htext : scheme ++ ':' :: '/' :: '/' :: rest =
        scheme.take 4 ++ (scheme.drop 4 ++ ':' :: '/' :: '/' :: rest) := by
      rw [← List.append_assoc, List.take_append_drop]
    rw [looksAbsolute, htext, List.take_left' hlength, List.drop_left' hlength, hfour, Bool.true_and]
    split at hrest
    · rename_i hdrop
      rw [hdrop]
      rfl
    · rename_i s hdrop
      rw [hdrop]
      split <;> simp_all
    · cases hrest

/-- There is no mark in the start of an absolute address. -/
theorem isUnmarked_of_isWebScheme {scheme : List Char} (h : isWebScheme scheme = true) :
    IsUnmarked scheme := by
  rw [isWebScheme, Bool.and_eq_true, beq_iff_eq] at h
  obtain ⟨hfour, hrest⟩ := h
  have hlower : ∀ c ∈ scheme, c.toLower ∈ "https".toList ∨ c = longS := by
    intro c hc
    rw [← List.take_append_drop 4 scheme, List.mem_append] at hc
    rcases hc with hc | hc
    · have hmem := List.mem_map_of_mem (f := Char.toLower) hc
      rw [hfour] at hmem
      exact .inl ((by decide : "http".toList ⊆ "https".toList) hmem)
    · split at hrest
      · rename_i hdrop
        rw [hdrop] at hc
        cases hc
      · rename_i s hdrop
        rw [hdrop, List.mem_singleton] at hc
        subst hc
        rw [Bool.or_eq_true, beq_iff_eq, beq_iff_eq] at hrest
        refine hrest.imp_left fun hlower => ?_
        rw [hlower]
        decide
      · cases hrest
  constructor <;> intro hmem <;> exact absurd (hlower _ hmem) (by decide)

section

variable {text suffix : List Char} (hsuffix : StartsQuery suffix)

include hsuffix

/-- A mark is no part of what an absolute address starts with. -/
theorem looksAbsolute_append : looksAbsolute (text ++ suffix) = looksAbsolute text := by
  rw [Bool.eq_iff_iff, looksAbsolute_iff, looksAbsolute_iff]
  constructor
  · rintro ⟨scheme, rest, htext, hscheme⟩
    have hstart : text ++ suffix = (scheme ++ "://".toList) ++ rest := by simpa using htext
    rcases List.append_eq_append_iff.1 hstart with ⟨middle, hmiddle, hrest⟩ | ⟨middle, hmiddle, -⟩
    · -- a mark that follows the text would be inside of the start
      have hmarks : IsUnmarked (scheme ++ "://".toList) :=
        isUnmarked_append.2 ⟨isUnmarked_of_isWebScheme hscheme, by decide⟩
      cases middle with
      | nil => exact ⟨scheme, [], by simpa using hmiddle.symm, hscheme⟩
      | cons mark middle =>
        rw [hmiddle, isUnmarked_append] at hmarks
        rcases hsuffix mark (by simp [hrest]) with rfl | rfl
        · exact absurd List.mem_cons_self hmarks.2.1
        · exact absurd List.mem_cons_self hmarks.2.2
    · exact ⟨scheme, middle, by simpa using hmiddle, hscheme⟩
  · rintro ⟨scheme, rest, rfl, hscheme⟩
    exact ⟨scheme, rest ++ suffix, by simp, hscheme⟩

/-- A mark ends the authority. -/
theorem takeAuthority_append :
    takeAuthority (text ++ suffix) = ((takeAuthority text).1, (takeAuthority text).2 ++ suffix) := by
  have hends : ∀ c ∈ suffix.head?, (!endsAuthority c) = false := by
    intro c hc
    rcases hsuffix c hc with rfl | rfl <;> decide
  by_cases hslashes : ∃ rest, text = '/' :: '/' :: rest
  · obtain ⟨rest, rfl⟩ := hslashes
    simp only [takeAuthority, List.cons_append, Text.takeWhile_append_of_head hends,
      Text.dropWhile_append_of_head hends]
  · have hnone : ∀ rest, text ++ suffix ≠ '/' :: '/' :: rest := by
      intro rest hrest
      rcases text with _ | ⟨a, _ | ⟨b, text⟩⟩
      · rcases hsuffix '/' (by simp_all) with hslash | hslash <;> cases hslash
      · rcases hsuffix '/' (by simp_all) with hslash | hslash <;> cases hslash
      · simp_all
    rw [takeAuthority.eq_2 _ hnone, takeAuthority.eq_2 _ fun rest hrest => hslashes ⟨rest, hrest⟩]

theorem takePath_append (htext : IsUnmarked text) : (takePath (text ++ suffix)).1 = text := by
  have hhash : (Text.cutAt '#' (text ++ suffix)).1 = text ++ (Text.cutAt '#' suffix).1 :=
    Text.cutAt_append_of_notMem htext.2 suffix
  have hpath : (takePath (text ++ suffix)).1 = text ++ (Text.cutAt '?' (Text.cutAt '#' suffix).1).1 := by
    rw [takePath, hhash]
    exact Text.cutAt_append_of_notMem htext.1 _
  have hempty : (Text.cutAt '?' (Text.cutAt '#' suffix).1).1 = [] := by
    cases suffix with
    | nil => rfl
    | cons mark rest =>
      rcases hsuffix mark rfl with rfl | rfl
      · simp [Text.cutAt]
      · simp [Text.cutAt]
  rw [hpath, hempty, List.append_nil]

end

theorem takePath_of_isUnmarked {text : List Char} (h : IsUnmarked text) :
    takePath text = (text, []) := by
  rw [takePath, Text.cutAt_of_notMem h.2, Text.cutAt_of_notMem h.1]
  rfl

theorem takeScheme_append {text : List Char} (h : ':' ∈ text) (rest : List Char) :
    takeScheme (text ++ rest) = ((takeScheme text).1, (takeScheme text).2 ++ rest) := by
  rw [takeScheme, takeScheme, Text.cutAt_append_of_mem h]
  cases hcut : Text.cutAt ':' text with
  | mk before after =>
    cases before <;> cases after <;> simp only [Option.map]
    split <;> rfl

theorem takeScheme_subset (text : List Char) : (takeScheme text).2 ⊆ text := by
  have hcut := Text.cutAt_eq ':' text
  unfold takeScheme
  split
  · rename_i c rest after hfound
    rw [hfound] at hcut
    split
    · intro d hd
      rw [hcut]
      simp only [List.mem_append, List.mem_cons]
      exact .inr (.inr hd)
    · exact List.Subset.refl text
  · exact List.Subset.refl text

theorem takeAuthority_subset (text : List Char) : (takeAuthority text).2 ⊆ text := by
  unfold takeAuthority
  split
  · rename_i rest
    exact fun c hc =>
      List.mem_cons_of_mem _ (List.mem_cons_of_mem _ ((List.dropWhile_suffix _).subset hc))
  · exact List.Subset.refl text

/-- A mark behind an absolute address changes its query only. -/
theorem parse_append {text suffix : List Char} (hsuffix : StartsQuery suffix)
    (htext : IsUnmarked text) (hcolon : ':' ∈ text) :
    ∃ query, parse (text ++ suffix) =
      (parse text).map fun address => { address with query } := by
  have hkept : StartsQuery (suffix.filter fun c => !isIgnored c) := by
    cases suffix with
    | nil => exact hsuffix
    | cons mark rest =>
      have hmark : isIgnored mark = false := by rcases hsuffix mark rfl with rfl | rfl <;> decide
      simpa [hmark, StartsQuery] using hsuffix
  have hcolon' : ':' ∈ text.filter fun c => !isIgnored c := List.mem_filter.2 ⟨hcolon, by decide⟩
  have htext' : IsUnmarked (text.filter fun c => !isIgnored c) :=
    htext.of_subset fun c hc => List.mem_of_mem_filter hc
  unfold parse
  rw [List.filter_append]
  generalize text.filter (fun c => !isIgnored c) = kept at hcolon' htext' ⊢
  generalize suffix.filter (fun c => !isIgnored c) = marked at hkept ⊢
  have hrest : IsUnmarked (takeAuthority (takeScheme kept).2).2 :=
    htext'.of_subset fun c hc => takeScheme_subset kept (takeAuthority_subset _ hc)
  simp only [takeScheme_append hcolon', takeAuthority_append hkept, takePath_append hkept hrest,
    takePath_of_isUnmarked hrest]
  cases authorityFault? (takeAuthority (takeScheme kept).2).1 with
  | some fault => exact ⟨[], rfl⟩
  | none => exact ⟨_, rfl⟩

end Address

/-! ## Endpoints -/

/-- **A query or a fragment behind an endpoint** changes what is kept apart for the query, and
nothing else: neither whether the endpoint is accepted nor the rest of its feature. -/
theorem ofEndpoint_append {endpoint suffix : String} (htrim : Text.trim endpoint = endpoint)
    (hendpoint : IsUnmarked endpoint.toList) (hsuffix : StartsQuery suffix.toList)
    (method : HttpMethod) (base : Option String) :
    ∃ query, Feature.ofEndpoint (endpoint ++ suffix) method base =
      (Feature.ofEndpoint endpoint method base).map fun feature => { feature with query } := by
  have hblank : ∀ c ∈ suffix.toList.head?, Text.isBlank c = false := by
    intro c hc
    rcases hsuffix c hc with rfl | rfl <;> decide
  have htrimmed : Text.trimWhile Text.isBlank endpoint.toList = endpoint.toList := by
    rw [← String.toList_ofList (l := Text.trimWhile Text.isBlank endpoint.toList), ← Text.trim, htrim]
  have hbehind : StartsQuery (Text.dropEndWhile Text.isBlank suffix.toList) :=
    hsuffix.of_prefix (Text.isPrefix_dropEndWhile _)
  have htext : Text.trimWhile Text.isBlank (endpoint ++ suffix).toList =
      endpoint.toList ++ Text.dropEndWhile Text.isBlank suffix.toList := by
    rw [String.toList_append, Text.trimWhile_append htrimmed hblank]
  generalize Text.dropEndWhile Text.isBlank suffix.toList = marked at hbehind htext
  simp only [Feature.ofEndpoint, htext, htrimmed, Address.looksAbsolute_append hbehind]
  split
  · rename_i habsolute
    obtain ⟨scheme, rest, hscheme, -⟩ := Address.looksAbsolute_iff.1 habsolute
    obtain ⟨query, hquery⟩ := Address.parse_append hbehind hendpoint (by simp [hscheme])
    refine ⟨String.ofList query, ?_⟩
    rw [hquery]
    cases Address.parse endpoint.toList with
    | error fault => rfl
    | ok address => simp only [Except.map, Feature.ofParts, Feature.baseOf]
  · refine ⟨String.ofList (Address.takePath (endpoint.toList ++ marked)).2, ?_⟩
    simp only [Address.takePath_append hbehind hendpoint, Address.takePath_of_isUnmarked hendpoint,
      Except.map, Feature.ofParts]

end DartLayers
