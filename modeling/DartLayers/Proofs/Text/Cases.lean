import DartLayers.Proofs.Text.Names

/-!
# DartLayers — the case of generated names

A feature is named in snake case, its classes and those of the records in Pascal case, whatever the
endpoint and the keys are written in. A name in snake case starts with a small letter, so the class
names that are made of it need no word in front.

* **`IsSnakeName`**, **`IsClassName`** — the two spellings.
* **`featureName_isSnakeName`** — the name of a feature.
* **`classIdentifier_isClassName`** — the name of a record.
* **`Feature.IsNamed`** — what is known of the names of every feature.
-/

namespace DartLayers

namespace Text

/-! ## Words -/

theorem isLower_or_isDigit_toLower {c : Char} (h : c.isAlphanum) :
    c.toLower.isLower ∨ c.toLower.isDigit := by
  grind [Char.toLower, Char.isAlphanum, Char.isAlpha, Char.isLower, Char.isUpper, Char.isDigit]

theorem isUpper_or_isDigit_toUpper {c : Char} (h : c.isAlphanum) :
    c.toUpper.isUpper ∨ c.toUpper.isDigit := by
  grind [Char.toUpper, Char.isAlphanum, Char.isAlpha, Char.isLower, Char.isUpper, Char.isDigit]

theorem isUpper_toUpper {c : Char} (h : c.isLower) : c.toUpper.isUpper := by
  grind [Char.toUpper, Char.isLower, Char.isUpper]

theorem isAlphanum_of_isLower {c : Char} (h : c.isLower) : c.isAlphanum := by
  simp [Char.isAlphanum, Char.isAlpha, h]

/-- A letter or a digit in front of a text starts its first word. -/
theorem exists_words_cons {c : Char} (h : c.isAlphanum) (rest : List Char) :
    ∃ word others, words (c :: rest) = (c :: word) :: others := by
  rw [words, if_pos h]
  split
  · cases words rest with
    | nil => exact ⟨[], [], rfl⟩
    | cons word others => exact ⟨word, others, rfl⟩
  · exact ⟨[], words rest, rfl⟩

/-- A text in snake case starts in its first word, and its words are written small. -/
theorem snakeChars_eq_cons {text : List Char} {c : Char} {rest : List Char}
    (h : snakeChars text = c :: rest) :
    (c.isLower ∨ c.isDigit) ∧ ∀ d ∈ rest, d.isLower ∨ d.isDigit ∨ d = '_' := by
  have hsmall : ∀ word ∈ words text, ∀ d ∈ word.map Char.toLower, d.isLower ∨ d.isDigit := by
    intro word hword d hd
    obtain ⟨e, he, rfl⟩ := List.mem_map.1 hd
    exact isLower_or_isDigit_toLower ((words_spec hword).2 e he)
  have hall : ∀ d ∈ c :: rest, d.isLower ∨ d.isDigit ∨ d = '_' := by
    intro d hd
    rw [← h, snakeChars] at hd
    rcases mem_intercalate hd with hseparator | ⟨piece, hpiece, hmem⟩
    · exact .inr (.inr (by simpa using hseparator))
    · obtain ⟨word, hword, rfl⟩ := List.mem_map.1 hpiece
      exact (hsmall word hword d hmem).imp_right .inl
  refine ⟨?_, fun d hd => hall d (List.mem_cons_of_mem c hd)⟩
  -- the first character belongs to the first word, which is not empty
  cases hwords : words text with
  | nil => simp [snakeChars, hwords] at h
  | cons word others =>
    obtain ⟨hne, -⟩ := words_spec (show word ∈ words text by simp [hwords])
    obtain ⟨first, tail, rfl⟩ := List.exists_cons_of_ne_nil hne
    have hfirst : c = first.toLower := by
      cases others <;> simp_all [snakeChars, List.intercalate_cons_cons]
    subst hfirst
    exact hsmall (first :: tail) (by simp [hwords]) first.toLower (by simp)

/-- A text in Pascal case starts with a capital or a digit. -/
theorem pascalChars_eq_cons {text : List Char} {c : Char} {rest : List Char}
    (h : pascalChars text = c :: rest) : c.isUpper ∨ c.isDigit := by
  cases hwords : words text with
  | nil => simp [pascalChars, hwords] at h
  | cons word others =>
    obtain ⟨hne, halphanum⟩ := words_spec (show word ∈ words text by simp [hwords])
    obtain ⟨first, tail, rfl⟩ := List.exists_cons_of_ne_nil hne
    have hfirst : first.toUpper = c := by
      simp only [pascalChars, hwords, List.flatMap_cons, capitalize, List.cons_append,
        List.cons.injEq] at h
      exact h.1
    subst hfirst
    exact isUpper_or_isDigit_toUpper (halphanum first List.mem_cons_self)

/-- A text in camel case starts with a small letter or a digit. -/
theorem camelChars_eq_cons {text : List Char} {c : Char} {rest : List Char}
    (h : camelChars text = c :: rest) : c.isLower ∨ c.isDigit := by
  cases hpascal : pascalChars text with
  | nil => simp [camelChars, hpascal] at h
  | cons first others =>
    have halphanum : first.isAlphanum := by
      rcases pascalChars_eq_cons hpascal with hupper | hdigit
      · simp [Char.isAlphanum, Char.isAlpha, hupper]
      · simp [Char.isAlphanum, hdigit]
    simp only [camelChars, hpascal, List.cons.injEq] at h
    rw [← h.1]
    exact isLower_or_isDigit_toLower halphanum

end Text

/-! ## Spellings -/

/-- A name in snake case: a small letter, then small letters, digits and underscores. -/
def IsSnakeName (name : String) : Prop :=
  ∃ c rest, name.toList = c :: rest ∧ c.isLower ∧ ∀ d ∈ rest, d.isLower ∨ d.isDigit ∨ d = '_'

/-- A name in Pascal case: a capital, then letters and digits. -/
def IsClassName (name : String) : Prop :=
  ∃ c rest, name.toList = c :: rest ∧ c.isUpper ∧ ∀ d ∈ rest, d.isAlphanum

instance (name : String) : Decidable (IsSnakeName name) :=
  decidable_of_iff (name.toList.head?.any Char.isLower &&
      name.toList.tail.all fun d => d.isLower || d.isDigit || d == '_') (by
    cases h : name.toList <;> simp [IsSnakeName, h, or_assoc])

instance (name : String) : Decidable (IsClassName name) :=
  decidable_of_iff (name.toList.head?.any Char.isUpper && name.toList.tail.all Char.isAlphanum) (by
    cases h : name.toList <;> simp [IsClassName, h])

/-- A name that starts with a small letter. -/
def StartsSmall (name : String) : Prop :=
  ∃ c rest, name.toList = c :: rest ∧ c.isLower

instance (name : String) : Decidable (StartsSmall name) :=
  decidable_of_iff (name.toList.head?.any Char.isLower) (by
    cases h : name.toList <;> simp [StartsSmall, h])

theorem StartsSmall.append {name : String} (h : StartsSmall name) (suffix : String) :
    StartsSmall (name ++ suffix) := by
  obtain ⟨c, rest, hname, hlower⟩ := h
  exact ⟨c, rest ++ suffix.toList, by simp [hname], hlower⟩

/-- What is appended to a class name goes on with it. -/
theorem IsClassName.append {name suffix : String} (h : IsClassName name)
    (hsuffix : ∀ d ∈ suffix.toList, d.isAlphanum) : IsClassName (name ++ suffix) := by
  obtain ⟨c, rest, hname, hupper, hrest⟩ := h
  refine ⟨c, rest ++ suffix.toList, by simp [hname], hupper, fun d hd => ?_⟩
  exact (List.mem_append.1 hd).elim (hrest d) (hsuffix d)

theorem IsClassName.startsWithDigit_eq {name : String} (h : IsClassName name) :
    Text.startsWithDigit name = false := by
  obtain ⟨c, rest, hname, hupper, -⟩ := h
  rw [Text.startsWithDigit, hname, List.head?_cons, Option.any_some]
  grind [Char.isUpper, Char.isDigit]

theorem IsClassName.ne_empty {name : String} (h : IsClassName name) : name ≠ "" := by
  obtain ⟨c, rest, hname, -⟩ := h
  rintro rfl
  exact absurd hname.symm (List.cons_ne_nil c rest)

theorem IsClassName.isAlphanum {name : String} (h : IsClassName name) :
    ∀ c ∈ name.toList, c.isAlphanum := by
  obtain ⟨c, rest, hname, hupper, hrest⟩ := h
  have hc : c.isAlphanum := by simp [Char.isAlphanum, Char.isAlpha, hupper]
  rw [hname, List.forall_mem_cons]
  exact ⟨hc, hrest⟩

theorem IsClassName.isWord {name : String} (h : IsClassName name) : IsWord name :=
  ⟨h.ne_empty, fun c hc => .inl (h.isAlphanum c hc)⟩

/-- The classes of a name in snake case are named in Pascal case. -/
theorem IsSnakeName.toPascal_isClassName {name : String} (h : IsSnakeName name) :
    IsClassName (Text.toPascal name) := by
  obtain ⟨c, rest, hname, hlower, -⟩ := h
  obtain ⟨word, others, hwords⟩ :=
    Text.exists_words_cons (Text.isAlphanum_of_isLower hlower) rest
  have hpascal : (Text.toPascal name).toList =
      c.toUpper :: (word.map Char.toLower ++ others.flatMap Text.capitalize) := by
    rw [Text.toPascal, String.toList_ofList, hname, Text.pascalChars, hwords]
    rfl
  refine ⟨c.toUpper, _, hpascal, Text.isUpper_toUpper hlower, fun d hd => ?_⟩
  have hmem : d ∈ Text.pascalChars name.toList := by
    rw [← String.toList_ofList (l := Text.pascalChars name.toList), ← Text.toPascal, hpascal]
    exact List.mem_cons_of_mem _ hd
  exact Text.isAlphanum_of_mem_pascalChars d hmem

/-! ## Names of features and records -/

theorem segmentFeature?_isSnakeName {segment : List Char} {name : String}
    (h : segmentFeature? segment = some name) : IsSnakeName name := by
  unfold segmentFeature? at h
  split at h
  · cases h
  · split at h
    · cases h
    · rename_i first rest hsnake
      obtain ⟨hfirst, hrest⟩ := Text.snakeChars_eq_cons hsnake
      split at h <;> cases h
      · -- a digit gets a word in front
        obtain ⟨c, front, hfront, hlower, hsmall⟩ := (by decide : IsSnakeName "feature_")
        refine ⟨c, front ++ first :: rest, by simp [hfront], hlower, fun d hd => ?_⟩
        rw [List.mem_append, List.mem_cons] at hd
        rcases hd with hd | rfl | hd
        · exact hsmall d hd
        · exact hfirst.imp_right .inl
        · exact hrest d hd
      · rename_i hdigit
        exact ⟨first, rest, String.toList_ofList, hfirst.resolve_right hdigit, hrest⟩

/-- **A feature is named in snake case**, whatever its path. -/
theorem featureName_isSnakeName (path : String) : IsSnakeName (featureName path) := by
  unfold featureName
  cases hfound : (pathSegments path.toList).findSome? segmentFeature? with
  | none => exact (by decide : IsSnakeName defaultFeature)
  | some name =>
    obtain ⟨segment, -, hsegment⟩ := List.exists_of_findSome?_eq_some hfound
    exact segmentFeature?_isSnakeName hsegment

/-- **A record is named in Pascal case**, whatever its key. -/
theorem classIdentifier_isClassName (text : String) : IsClassName (classIdentifier text) := by
  have hitem : IsClassName "Item" := by decide
  have hpascal : ∀ d ∈ (Text.toPascal text).toList, d.isAlphanum := by
    rw [Text.toPascal, String.toList_ofList]
    exact Text.isAlphanum_of_mem_pascalChars
  unfold classIdentifier
  simp only
  split
  · exact hitem
  · rename_i hne
    obtain ⟨first, rest, hchars⟩ := List.exists_cons_of_ne_nil
      (fun hnil : (Text.toPascal text).toList = [] => hne (String.toList_eq_nil_iff.1 hnil))
    split
    · exact hitem.append hpascal
    · rename_i hdigit
      have hstart : first.isUpper ∨ first.isDigit := by
        rw [Text.toPascal, String.toList_ofList] at hchars
        exact Text.pascalChars_eq_cons hchars
      have hnot : ¬ first.isDigit := by
        simpa [Text.startsWithDigit, hchars] using hdigit
      refine ⟨first, rest, hchars, hstart.resolve_right hnot, fun d hd => ?_⟩
      exact hpascal d (by simp [hchars, hd])

/-- A class name that is made of a name in snake case is used as it is. -/
theorem IsSnakeName.classIdentifier_eq {name : String} (h : IsSnakeName name) :
    classIdentifier name = Text.toPascal name := by
  have hclass := h.toPascal_isClassName
  simp [classIdentifier, hclass.ne_empty, hclass.startsWithDigit_eq]

theorem recordIdentifier_isClassName (feature : String) (path : List String) :
    IsClassName (recordIdentifier feature path) := by
  unfold recordIdentifier
  split
  · exact (classIdentifier_isClassName feature).append (List.all_eq_true.1 (by decide))
  · exact classIdentifier_isClassName _

/-! ## Names of features -/

/-- A feature is named in snake case, as a word of its own, and its classes are named after it. -/
structure Feature.IsNamed (feature : Feature) : Prop where
  isSnakeName : IsSnakeName feature.name
  isWord : IsWord feature.name
  pascalName_eq : feature.pascalName = Text.toPascal feature.name

namespace Feature

variable {feature : Feature}

/-- **Every feature is named so**, whatever its endpoint. -/
theorem isNamed_of_ofEndpoint {endpoint : String} {method : HttpMethod} {base : Option String}
    (h : Feature.ofEndpoint endpoint method base = .ok feature) : feature.IsNamed := by
  obtain ⟨hname, hpascal⟩ := Feature.names_of_ofEndpoint h
  refine ⟨?_, ?_, hpascal⟩
  · rw [hname]
    exact featureName_isSnakeName feature.path
  · rw [hname]
    exact featureName_isWord feature.path

theorem isNamed_ofParts (path query : List Char) (method : HttpMethod) (known : Option String) :
    (Feature.ofParts path query method known).IsNamed :=
  ⟨featureName_isSnakeName _, featureName_isWord _, rfl⟩

namespace IsNamed

theorem isClassName (h : feature.IsNamed) : IsClassName feature.pascalName := by
  rw [h.pascalName_eq]
  exact h.isSnakeName.toPascal_isClassName

/-- The root record is named after the feature. -/
theorem rootName_eq (h : feature.IsNamed) (layer : RecordLayer) :
    (recordName feature.name [] layer).logical = feature.pascalName ++ "Response" := by
  show classIdentifier feature.name ++ "Response" = feature.pascalName ++ "Response"
  rw [h.isSnakeName.classIdentifier_eq, h.pascalName_eq]

end IsNamed

end Feature

/-! ## Names of constants -/

/-- **A registry constant starts with a small letter.** -/
theorem endpointConstant_startsSmall (path : String) : StartsSmall (endpointConstant path) := by
  unfold endpointConstant
  simp only
  split
  · exact (by decide : StartsSmall defaultConstant)
  · rename_i first rest hcamel
    split
    · exact StartsSmall.append (by decide) _
    · rename_i hdigit
      have hstart := Text.camelChars_eq_cons hcamel
      exact ⟨first, rest, String.toList_ofList, hstart.resolve_right hdigit⟩

end DartLayers
