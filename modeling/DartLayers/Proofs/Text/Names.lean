import DartLayers.Endpoint.Feature
import DartLayers.Schema.Inference
import Mathlib

/-!
# DartLayers — the characters of generated names

Names are made of words, and words are runs of letters and digits. So a feature's name is never
empty and holds letters, digits and underscores only, and a registry constant holds no underscore
either.

* **`Text.splitOn_intercalate`** — pieces without the separator are what they are cut into.
* **`featureName_isWord`** — a feature's name is a word of its own.
* **`endpointConstant_isAlphanum`** — a registry constant is made of letters and digits.
-/

namespace DartLayers

namespace Text

/-! ## Pieces -/

/-- Cutting is that of the core library. -/
theorem splitOn_eq (separator : Char) (text : List Char) :
    splitOn separator text = text.splitOn separator := by
  induction text with
  | nil => rfl
  | cons c rest ih =>
    rw [splitOn, List.splitOn_cons_eq_if_modifyHead, ih]
    by_cases hc : c = separator
    · simp [hc]
    · rw [if_neg hc, if_neg (by simpa using hc)]
      cases hpieces : rest.splitOn separator with
      | nil => exact absurd hpieces (List.splitOn_ne_nil _ _)
      | cons piece others => rfl

/-- Pieces without the separator are what their joined text is cut into. -/
theorem splitOn_intercalate {separator : Char} {pieces : List (List Char)} (hne : pieces ≠ [])
    (h : ∀ piece ∈ pieces, separator ∉ piece) :
    splitOn separator ([separator].intercalate pieces) = pieces := by
  rw [splitOn_eq, List.splitOn_intercalate separator h hne]

theorem splitOn_of_notMem {separator : Char} {text : List Char} (h : separator ∉ text) :
    splitOn separator text = [text] := by
  have hpieces : splitOn separator ([separator].intercalate [text]) = [text] :=
    splitOn_intercalate (List.cons_ne_nil text []) (by simpa using h)
  rwa [List.intercalate_singleton] at hpieces

/-! ## Words -/

theorem isAlphanum_toLower {c : Char} (h : c.isAlphanum) : c.toLower.isAlphanum := by
  grind [Char.toLower, Char.isAlphanum, Char.isAlpha, Char.isLower, Char.isUpper, Char.isDigit]

theorem isAlphanum_toUpper {c : Char} (h : c.isAlphanum) : c.toUpper.isAlphanum := by
  grind [Char.toUpper, Char.isAlphanum, Char.isAlpha, Char.isLower, Char.isUpper, Char.isDigit]

/-- A word is not empty, and it is made of letters and digits. -/
theorem words_spec {text word : List Char} (h : word ∈ words text) :
    word ≠ [] ∧ ∀ c ∈ word, c.isAlphanum := by
  induction text generalizing word with
  | nil => simp [words] at h
  | cons c rest ih =>
    rw [words] at h
    split at h
    · rename_i hc
      split at h
      · cases hwords : words rest with
        | nil =>
          simp only [hwords, consFirst, List.mem_singleton] at h
          simp [h, hc]
        | cons first others =>
          simp only [hwords, consFirst, List.mem_cons] at h
          rcases h with rfl | hother
          · refine ⟨List.cons_ne_nil c first, fun d hd => ?_⟩
            rcases List.mem_cons.1 hd with rfl | hfirst
            · exact hc
            · exact (ih (show first ∈ _ by simp [hwords])).2 d hfirst
          · exact ih (by simp [hwords, hother])
      · rcases List.mem_cons.1 h with rfl | hother
        · simp [hc]
        · exact ih hother
    · exact ih h

theorem isAlphanum_of_mem_capitalize {word : List Char} (h : ∀ c ∈ word, c.isAlphanum) :
    ∀ c ∈ capitalize word, c.isAlphanum := by
  cases word with
  | nil => simp [capitalize]
  | cons first rest =>
    intro c hc
    rcases List.mem_cons.1 hc with rfl | hrest
    · exact isAlphanum_toUpper (h first List.mem_cons_self)
    · obtain ⟨d, hd, rfl⟩ := List.mem_map.1 hrest
      exact isAlphanum_toLower (h d (List.mem_cons_of_mem _ hd))

/-- A text in Pascal case is made of letters and digits. -/
theorem isAlphanum_of_mem_pascalChars {text : List Char} : ∀ c ∈ pascalChars text, c.isAlphanum := by
  intro c hc
  obtain ⟨word, hword, hmem⟩ := List.mem_flatMap.1 hc
  exact isAlphanum_of_mem_capitalize (words_spec hword).2 c hmem

/-- A text in camel case is made of letters and digits. -/
theorem isAlphanum_of_mem_camelChars {text : List Char} : ∀ c ∈ camelChars text, c.isAlphanum := by
  have hpascal : ∀ c ∈ pascalChars text, c.isAlphanum := isAlphanum_of_mem_pascalChars
  intro c hc
  unfold camelChars at hc
  split at hc
  · cases hc
  · rename_i first rest hfirst
    rw [hfirst] at hpascal
    rcases List.mem_cons.1 hc with rfl | hrest
    · exact isAlphanum_toLower (hpascal first List.mem_cons_self)
    · exact hpascal c (List.mem_cons_of_mem _ hrest)

end Text

/-! ## Names -/

/-- A text that is not empty and made of letters, digits and underscores. -/
def IsWord (text : String) : Prop :=
  text ≠ "" ∧ ∀ c ∈ text.toList, c.isAlphanum ∨ c = '_'

instance (text : String) : Decidable (IsWord text) :=
  decidable_of_iff (text ≠ "" ∧ text.toList.all fun c => c.isAlphanum || c == '_')
    (by simp [IsWord])

/-- What stands in a joined text stands in the separator or in a piece. -/
theorem mem_intercalate {separator : List Char} {pieces : List (List Char)} {c : Char}
    (h : c ∈ separator.intercalate pieces) : c ∈ separator ∨ ∃ piece ∈ pieces, c ∈ piece := by
  induction pieces with
  | nil => simp at h
  | cons piece rest ih =>
    cases rest with
    | nil => exact .inr ⟨piece, List.mem_cons_self, by simpa using h⟩
    | cons next others =>
      rw [List.intercalate_cons_cons, List.mem_append, List.mem_append] at h
      rcases h with (hpiece | hseparator) | hrest
      · exact .inr ⟨piece, List.mem_cons_self, hpiece⟩
      · exact .inl hseparator
      · rcases ih hrest with hseparator | ⟨found, hfound, hmem⟩
        · exact .inl hseparator
        · exact .inr ⟨found, List.mem_cons_of_mem _ hfound, hmem⟩

theorem IsWord.append {text other : String} (h : IsWord text) (hother : IsWord other) :
    IsWord (text ++ other) := by
  refine ⟨by simp [h.1], fun c hc => ?_⟩
  rw [String.toList_append, List.mem_append] at hc
  exact hc.elim (h.2 c) (hother.2 c)

/-- A text in snake case is made of letters, digits and underscores. -/
theorem Text.mem_snakeChars {text : List Char} {c : Char} (h : c ∈ Text.snakeChars text) :
    c.isAlphanum ∨ c = '_' := by
  rcases mem_intercalate h with hseparator | ⟨lowered, hlowered, hmem⟩
  · exact .inr (by simpa using hseparator)
  · obtain ⟨word, hword, rfl⟩ := List.mem_map.1 hlowered
    obtain ⟨d, hd, rfl⟩ := List.mem_map.1 hmem
    exact .inl (Text.isAlphanum_toLower ((Text.words_spec hword).2 d hd))

theorem segmentFeature?_isWord {segment : List Char} {name : String}
    (h : segmentFeature? segment = some name) : IsWord name := by
  unfold segmentFeature? at h
  split at h
  · cases h
  · split at h
    · cases h
    · rename_i first rest hsnake
      have hchars : ∀ c ∈ first :: rest, c.isAlphanum ∨ c = '_' := by
        rw [← hsnake]
        exact fun c hc => Text.mem_snakeChars hc
      split at h
      · cases h
        refine ⟨by simp, fun c hc => ?_⟩
        rw [String.toList_append, String.toList_ofList, List.mem_append] at hc
        rcases hc with hprefix | hname
        · have hword : IsWord "feature_" := by decide
          exact hword.2 c hprefix
        · exact hchars c (by simpa using hname)
      · cases h
        exact ⟨by simp, fun c hc => hchars c (by simpa using hc)⟩

/-- **A feature's name is a word.** -/
theorem featureName_isWord (path : String) : IsWord (featureName path) := by
  unfold featureName
  cases hfound : (pathSegments path.toList).findSome? segmentFeature? with
  | none => exact (by decide : IsWord defaultFeature)
  | some name =>
    obtain ⟨segment, -, hsegment⟩ := List.exists_of_findSome?_eq_some hfound
    exact segmentFeature?_isWord hsegment

/-- **A registry constant is made of letters and digits**, and it is not empty. -/
theorem endpointConstant_isAlphanum (path : String) :
    endpointConstant path ≠ "" ∧ ∀ c ∈ (endpointConstant path).toList, c.isAlphanum := by
  unfold endpointConstant
  simp only
  split
  · exact ⟨by decide, List.all_eq_true.1 (by decide)⟩
  · rename_i first rest hcamel
    have hchars : ∀ c ∈ first :: rest, c.isAlphanum := by
      rw [← hcamel]
      exact Text.isAlphanum_of_mem_camelChars
    split
    · refine ⟨by simp, fun c hc => ?_⟩
      rw [String.toList_append, String.toList_ofList, List.mem_append] at hc
      rcases hc with hprefix | hname
      · exact List.all_eq_true.1 (by decide) c hprefix
      · exact hchars c (by simpa using hname)
    · exact ⟨by simp, fun c hc => hchars c (by simpa using hc)⟩

/-- A feature is put together from a path, a query and a base. -/
theorem Feature.exists_ofParts {endpoint : String} {method : HttpMethod} {base : Option String}
    {feature : Feature} (h : Feature.ofEndpoint endpoint method base = .ok feature) :
    ∃ path query known, feature = Feature.ofParts path query method known := by
  unfold Feature.ofEndpoint at h
  dsimp only at h
  split at h
  · split at h
    · cases h
    · exact ⟨_, _, _, (Except.ok.inj h).symm⟩
  · exact ⟨_, _, _, (Except.ok.inj h).symm⟩

/-- A feature is named after its path, and its classes are named after it. -/
theorem Feature.names_of_ofEndpoint {endpoint : String} {method : HttpMethod} {base : Option String}
    {feature : Feature} (h : Feature.ofEndpoint endpoint method base = .ok feature) :
    feature.name = featureName feature.path ∧ feature.pascalName = Text.toPascal feature.name := by
  obtain ⟨path, query, known, rfl⟩ := Feature.exists_ofParts h
  exact ⟨rfl, rfl⟩

/-- A class name is made of letters and digits. -/
theorem classIdentifier_isAlphanum (text : String) :
    ∀ c ∈ (classIdentifier text).toList, c.isAlphanum := by
  have hpascal : ∀ c ∈ (Text.toPascal text).toList, c.isAlphanum := by
    rw [Text.toPascal, String.toList_ofList]
    exact Text.isAlphanum_of_mem_pascalChars
  rw [classIdentifier]
  split
  · exact List.all_eq_true.1 (by decide)
  · split
    · intro c hc
      rw [String.toList_append, List.mem_append] at hc
      rcases hc with hprefix | hname
      · exact List.all_eq_true.1 (by decide) c hprefix
      · exact hpascal c hname
    · exact hpascal

end DartLayers
