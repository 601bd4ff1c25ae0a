import DartLayers.Proofs.Dart.Identifiers

/-!
# DartLayers — the words of a registry constant

A registry constant spells the words of a path in camel case. The words are taken out of the segments,
joined, and taken apart again; nothing is lost on the way, so a constant is what its words spell. A
name that is made of letters alone is spelled by one list of words only, as each word starts with a
capital. The constant of a path is therefore a keyword exactly if that is the only word of the path.

* **`Text.words_intercalate`** — words that are joined by underscores are found again.
* **`Text.flatMap_capitalize_inj`** — capitalised words can be told apart.
* **`endpointConstant_eq_iff`** — the paths whose constant is a given name.
* **`endpointConstant_isCamelName`** — every constant is a name in camel case.
* **`endpointConstant_mem_keywords_iff`** — the paths whose constant is a keyword.
-/

namespace DartLayers

namespace Text

/-! ## Words that are joined -/

theorem endsWordBetween_of_none {prev next : Char} (h : endsWordBetween prev next none = true)
    (after : Option Char) : endsWordBetween prev next after = true := by
  simp only [endsWordBetween, Option.any_none, Bool.and_false, Bool.or_false] at h
  simp [endsWordBetween, h]

/-- An underscore ends a word, and so does the end of the text. -/
theorem joinsNext_append_mark (c : Char) (text rest : List Char) :
    joinsNext c (text ++ '_' :: rest) = joinsNext c text := by
  match text with
  | [] => rfl
  | [next] =>
    have hmark : endsWordBetween c next (some '_') = endsWordBetween c next none := by
      simp [endsWordBetween]
    simp [joinsNext, hmark]
  | next :: after :: others => rfl

theorem exists_cons_of_joinsNext {c : Char} {rest : List Char} (h : joinsNext c rest = true) :
    ∃ next after, rest = next :: after ∧ next.isAlphanum ∧
      endsWordBetween c next after.head? = false := by
  cases rest with
  | nil => cases h
  | cons next after =>
    rw [joinsNext, Bool.and_eq_true, Bool.not_eq_true'] at h
    exact ⟨next, after, rfl, h⟩

/-- An underscore separates the words before it from those behind it. -/
theorem words_append_mark (text rest : List Char) :
    words (text ++ '_' :: rest) = words text ++ words rest := by
  induction text with
  | nil => rfl
  | cons c text ih =>
    rw [List.cons_append, words, words, joinsNext_append_mark, ih]
    split
    · split
      · rename_i hjoins
        obtain ⟨next, after, rfl, hnext, -⟩ := exists_cons_of_joinsNext hjoins
        obtain ⟨word, others, hwords⟩ := exists_words_cons hnext after
        rw [hwords, consFirst, List.cons_append, consFirst, List.cons_append]
      · rfl
    · rfl

/-- The first word of a text goes on as the text does, or it ends. -/
theorem head?_eq_of_words {next : Char} {after tail : List Char} {others : List (List Char)}
    (h : words (next :: after) = (next :: tail) :: others) : tail = [] ∨ tail.head? = after.head? := by
  rw [words] at h
  split at h
  · split at h
    · rename_i hjoins
      obtain ⟨second, rest, rfl, hsecond, -⟩ := exists_cons_of_joinsNext hjoins
      obtain ⟨word, behind, hwords⟩ := exists_words_cons hsecond rest
      rw [hwords, consFirst, List.cons.injEq, List.cons.injEq] at h
      rw [← h.1.2]
      exact .inr rfl
    · rw [List.cons.injEq, List.cons.injEq] at h
      exact .inl h.1.2.symm
  · rename_i hnext
    have hmem : next :: tail ∈ words (next :: after) := by
      rw [words, if_neg hnext, h]
      exact List.mem_cons_self
    exact absurd ((words_spec hmem).2 next List.mem_cons_self) hnext

/-- **A word is its only word.** -/
theorem words_of_mem {text word : List Char} (h : word ∈ words text) : words word = [word] := by
  induction text generalizing word with
  | nil => cases h
  | cons c rest ih =>
    rw [words] at h
    split at h
    · rename_i hc
      split at h
      · rename_i hjoins
        obtain ⟨next, after, rfl, hnext, hends⟩ := exists_cons_of_joinsNext hjoins
        obtain ⟨tail, others, hwords⟩ := exists_words_cons hnext after
        rw [hwords, consFirst] at h
        rcases List.mem_cons.1 h with rfl | hother
        · have hfirst : next :: tail ∈ words (next :: after) := by
            rw [hwords]
            exact List.mem_cons_self
          have hword := ih hfirst
          -- Where the text behind the word is cut off, the boundary in front of it stays where it
          -- was.
          have hstays : endsWordBetween c next tail.head? = false := by
            rw [Bool.eq_false_iff] at hends ⊢
            intro hearly
            rcases head?_eq_of_words hwords with rfl | hsame
            · exact hends (endsWordBetween_of_none hearly _)
            · exact hends (by rwa [← hsame])
          rw [words, if_pos hc, joinsNext, hnext, hstays, hword]
          rfl
        · exact ih (by rw [hwords]; exact List.mem_cons_of_mem _ hother)
      · rcases List.mem_cons.1 h with rfl | hother
        · simp [words, hc, joinsNext]
        · exact ih hother
    · exact ih h

/-- **Words that are joined by underscores are found again.** -/
theorem words_intercalate {pieces : List (List Char)} (h : ∀ piece ∈ pieces, words piece = [piece]) :
    words (['_'].intercalate pieces) = pieces := by
  induction pieces with
  | nil => rfl
  | cons piece rest ih =>
    rw [List.forall_mem_cons] at h
    cases rest with
    | nil => simpa using h.1
    | cons next others =>
      rw [List.intercalate_cons_cons, List.append_assoc, List.singleton_append, words_append_mark,
        h.1, ih h.2, List.singleton_append]

/-! ## Words in capitals -/

/-- A capital, and behind it no other. -/
def IsCapitalized (word : List Char) : Prop :=
  ∃ first rest, word = first :: rest ∧ first.isUpper ∧ ∀ c ∈ rest, c.isUpper = false

/-- What stands before the next capital of a text belongs to its first word. -/
theorem takeWhile_append_flatten {rest : List Char} (hrest : ∀ c ∈ rest, c.isUpper = false)
    {pieces : List (List Char)} (h : ∀ piece ∈ pieces, IsCapitalized piece) :
    (rest ++ pieces.flatten).takeWhile (fun c => !c.isUpper) = rest := by
  have hsmall : ∀ c ∈ rest, (!c.isUpper) = true := fun c hc => by simp [hrest c hc]
  rw [List.takeWhile_append_of_pos hsmall]
  cases pieces with
  | nil => simp
  | cons piece others =>
    obtain ⟨first, tail, rfl, hfirst, -⟩ := h piece List.mem_cons_self
    simp [hfirst]

/-- **Capitalised words can be told apart** when they are joined. -/
theorem flatten_inj {pieces others : List (List Char)} (h : ∀ piece ∈ pieces, IsCapitalized piece)
    (hothers : ∀ piece ∈ others, IsCapitalized piece) (hsame : pieces.flatten = others.flatten) :
    pieces = others := by
  induction pieces generalizing others with
  | nil =>
    cases others with
    | nil => rfl
    | cons other _ =>
      obtain ⟨first, tail, rfl, -⟩ := hothers other List.mem_cons_self
      simp at hsame
  | cons piece rest ih =>
    obtain ⟨first, tail, rfl, -, htail⟩ := h piece List.mem_cons_self
    cases others with
    | nil => simp at hsame
    | cons other behind =>
      obtain ⟨second, back, rfl, -, hback⟩ := hothers other List.mem_cons_self
      rw [List.forall_mem_cons] at h hothers
      simp only [List.flatten_cons, List.cons_append, List.cons.injEq] at hsame
      obtain ⟨rfl, hsame⟩ := hsame
      have htails : tail = back := by
        rw [← takeWhile_append_flatten htail h.2, hsame, takeWhile_append_flatten hback hothers.2]
      subst htails
      rw [ih h.2 hothers.2 (List.append_cancel_left hsame)]

theorem map_toLower_capitalize (word : List Char) :
    (capitalize word).map Char.toLower = word.map Char.toLower := by
  cases word with
  | nil => rfl
  | cons c rest => simp [capitalize]

theorem capitalize_map_toLower (word : List Char) :
    capitalize (word.map Char.toLower) = capitalize word := by
  cases word with
  | nil => rfl
  | cons c rest => simp [capitalize]

theorem isCapitalized_capitalize {c : Char} (h : c.isAlpha) (rest : List Char) :
    IsCapitalized (capitalize (c :: rest)) :=
  ⟨c.toUpper, rest.map Char.toLower, rfl, by simpa using h, by simp⟩

/-! ## Words in camel case -/

/-- Words in camel case. -/
def spellCamel (pieces : List (List Char)) : List Char :=
  match pieces.flatMap capitalize with
  | [] => []
  | c :: rest => c.toLower :: rest

theorem camelChars_eq_spellCamel (text : List Char) : camelChars text = spellCamel (words text) :=
  rfl

theorem toUpper_eq_of_flatMap {pieces : List (List Char)} (h : ∀ piece ∈ pieces, piece ≠ [])
    {c : Char} {rest : List Char} (hpieces : pieces.flatMap capitalize = c :: rest) :
    c.toUpper = c := by
  cases pieces with
  | nil => cases hpieces
  | cons piece others =>
    obtain ⟨first, tail, rfl⟩ := List.exists_cons_of_ne_nil (h piece List.mem_cons_self)
    simp only [List.flatMap_cons, capitalize, List.cons_append, List.cons.injEq] at hpieces
    rw [← hpieces.1, Char.toUpper_toUpper_eq_toUpper]

/-- The first letter can be made small without loss. -/
theorem spellCamel_inj {pieces others : List (List Char)} (h : ∀ piece ∈ pieces, piece ≠ [])
    (hothers : ∀ piece ∈ others, piece ≠ []) (hsame : spellCamel pieces = spellCamel others) :
    pieces.flatMap capitalize = others.flatMap capitalize := by
  unfold spellCamel at hsame
  cases hpieces : pieces.flatMap capitalize with
  | nil =>
    cases hcapitals : others.flatMap capitalize with
    | nil => rfl
    | cons d behind => simp [hpieces, hcapitals] at hsame
  | cons c rest =>
    cases hcapitals : others.flatMap capitalize with
    | nil => simp [hpieces, hcapitals] at hsame
    | cons d behind =>
      simp only [hpieces, hcapitals, List.cons.injEq] at hsame
      have hfirst : c = d := by
        rw [← toUpper_eq_of_flatMap h hpieces, ← toUpper_eq_of_flatMap hothers hcapitals,
          ← Char.toUpper_toLower_eq_toUpper, hsame.1, Char.toUpper_toLower_eq_toUpper]
      rw [hfirst, hsame.2]

/-- Capitalising letters makes letters. -/
theorem isAlpha_of_mem_flatMap {small : List (List Char)}
    (h : ∀ word ∈ small, ∀ c ∈ word, c.isLower) : ∀ c ∈ small.flatMap capitalize, c.isAlpha := by
  intro c hc
  obtain ⟨word, hword, hmem⟩ := List.mem_flatMap.1 hc
  have hlow : c.toLower ∈ word.map Char.toLower := by
    rw [← map_toLower_capitalize]
    exact List.mem_map_of_mem hmem
  obtain ⟨d, hd, hsame⟩ := List.mem_map.1 hlow
  rw [← Char.isAlpha_toLower_eq_isAlpha, ← hsame, Char.isAlpha_toLower_eq_isAlpha, Char.isAlpha,
    h word hword d hd, Bool.or_true]

theorem isAlpha_of_mem_spellCamel {small : List (List Char)}
    (h : ∀ word ∈ small, ∀ c ∈ word, c.isLower) : ∀ c ∈ spellCamel small, c.isAlpha := by
  have hletters := isAlpha_of_mem_flatMap h
  unfold spellCamel
  split
  · simp
  · rename_i first rest hcapitals
    rw [hcapitals, List.forall_mem_cons] at hletters
    rw [List.forall_mem_cons, Char.isAlpha_toLower_eq_isAlpha]
    exact hletters

/-- Words whose spelling is made of letters start with capitals in it. -/
theorem isCapitalized_of_letters {pieces : List (List Char)} (h : ∀ piece ∈ pieces, piece ≠ [])
    (hletters : ∀ c ∈ pieces.flatMap capitalize, c.isAlpha) :
    ∀ piece ∈ pieces.map capitalize, IsCapitalized piece := by
  rw [List.forall_mem_map]
  intro piece hpiece
  obtain ⟨c, rest, rfl⟩ := List.exists_cons_of_ne_nil (h piece hpiece)
  have hfirst := hletters c.toUpper (List.mem_flatMap.2 ⟨_, hpiece, List.mem_cons_self⟩)
  rw [Char.isAlpha_toUpper_eq_isAlpha] at hfirst
  exact isCapitalized_capitalize hfirst rest

/-- **Small words are spelled by themselves only**, whatever the case of the letters. -/
theorem spellCamel_eq_iff {pieces small : List (List Char)} (h : ∀ piece ∈ pieces, piece ≠ [])
    (hne : ∀ word ∈ small, word ≠ []) (hsmall : ∀ word ∈ small, ∀ c ∈ word, c.isLower) :
    spellCamel pieces = spellCamel small ↔ pieces.map (List.map Char.toLower) = small := by
  constructor
  · intro hsame
    have hflat := spellCamel_inj h hne hsame
    have hletters := isAlpha_of_mem_flatMap hsmall
    have hwords : pieces.map capitalize = small.map capitalize :=
      flatten_inj (isCapitalized_of_letters h (hflat ▸ hletters))
        (isCapitalized_of_letters hne hletters) hflat
    have hlower : small.map (List.map Char.toLower) = small := by
      refine (List.map_congr_left fun word hword => ?_).trans (List.map_id small)
      refine (List.map_congr_left fun c hc => ?_).trans (List.map_id word)
      exact Char.toLower_eq_of_not_isUpper (Char.not_isUpper_of_isLower (hsmall word hword c hc))
    have hmapped := congrArg (List.map (List.map Char.toLower)) hwords
    simpa only [List.map_map, Function.comp_def, map_toLower_capitalize, hlower] using hmapped
  · rintro rfl
    simp only [spellCamel, List.flatMap_map, capitalize_map_toLower]

end Text

/-! ## The constant of a path -/

/-- The words of a registry constant. -/
def constantPieces (path : String) : List (List Char) :=
  (constantSegments path.toList).flatMap Text.words

/-- The words of a registry constant in small letters. -/
def constantWords (path : String) : List String :=
  (constantPieces path).map fun piece => String.ofList (piece.map Char.toLower)

theorem constantPieces_spec {path : String} : ∀ piece ∈ constantPieces path,
    piece ≠ [] ∧ Text.words piece = [piece] := by
  intro piece hpiece
  obtain ⟨segment, -, hword⟩ := List.mem_flatMap.1 hpiece
  exact ⟨(Text.words_spec hword).1, Text.words_of_mem hword⟩

/-- A registry constant spells the words of the path, unless there are none or a digit comes first. -/
theorem endpointConstant_eq (path : String) : endpointConstant path =
    match Text.spellCamel (constantPieces path) with
    | [] => defaultConstant
    | c :: rest =>
      if c.isDigit then "endpoint" ++ String.ofList (c :: rest) else String.ofList (c :: rest) := by
  have hwords : Text.camelChars (['_'].intercalate (constantPieces path)) =
      Text.spellCamel (constantPieces path) := by
    rw [Text.camelChars_eq_spellCamel,
      Text.words_intercalate fun piece hpiece => (constantPieces_spec piece hpiece).2]
  rw [endpointConstant, ← hwords]
  rfl

/-- Small words that spell something, and not the name for a path without words. -/
structure IsSpelling (small : List String) : Prop where
  ne_empty : ∀ word ∈ small, word ≠ ""
  isLower : ∀ word ∈ small, word.toList.all Char.isLower = true
  ne_nil : Text.spellCamel (small.map String.toList) ≠ []
  ne_default : Text.spellCamel (small.map String.toList) ≠ defaultConstant.toList

instance (small : List String) : Decidable (IsSpelling small) :=
  decidable_of_iff ((∀ word ∈ small, word ≠ "") ∧
      (∀ word ∈ small, word.toList.all Char.isLower = true) ∧
      Text.spellCamel (small.map String.toList) ≠ [] ∧
      Text.spellCamel (small.map String.toList) ≠ defaultConstant.toList)
    ⟨fun ⟨hempty, hlower, hnil, hdefault⟩ => ⟨hempty, hlower, hnil, hdefault⟩,
      fun ⟨hempty, hlower, hnil, hdefault⟩ => ⟨hempty, hlower, hnil, hdefault⟩⟩

theorem IsSpelling.letters {small : List String} (h : IsSpelling small) :
    ∀ word ∈ small.map String.toList, ∀ c ∈ word, c.isLower :=
  List.forall_mem_map.2 fun word hword => List.all_eq_true.1 (h.isLower word hword)

/-- The words of a path are given small words exactly if they are spelled alike. -/
theorem constantWords_eq_iff {small : List String} (h : IsSpelling small) (path : String) :
    constantWords path = small ↔
      Text.spellCamel (constantPieces path) = Text.spellCamel (small.map String.toList) := by
  have hpieces : ∀ piece ∈ constantPieces path, piece ≠ [] :=
    fun piece hpiece => (constantPieces_spec piece hpiece).1
  have hne : ∀ word ∈ small.map String.toList, word ≠ [] :=
    List.forall_mem_map.2 fun word hword hchars =>
      h.ne_empty word hword (String.toList_eq_nil_iff.1 hchars)
  rw [Text.spellCamel_eq_iff hpieces hne h.letters, constantWords]
  constructor
  · rintro rfl
    simp
  · intro hsame
    have hback := congrArg (List.map String.ofList) hsame
    simpa [Function.comp_def] using hback

/-- **The paths with a given constant**: a name that is spelled by small words is the constant of the
paths that have these words, in whatever case, and of no others. -/
theorem endpointConstant_eq_iff {small : List String} (h : IsSpelling small) (path : String) :
    endpointConstant path = String.ofList (Text.spellCamel (small.map String.toList)) ↔
      constantWords path = small := by
  rw [constantWords_eq_iff h, endpointConstant_eq]
  cases hspelled : Text.spellCamel (constantPieces path) with
  | nil =>
    refine iff_of_false (fun hsame => h.ne_default ?_) fun hsame => h.ne_nil hsame.symm
    rw [← String.toList_ofList (l := Text.spellCamel (small.map _)), ← hsame]
  | cons c rest =>
    dsimp only
    split
    · -- a digit is no letter of the name
      rename_i hdigit
      have hletters := Text.isAlpha_of_mem_spellCamel h.letters
      have hnot : c ∉ Text.spellCamel (small.map String.toList) := fun hmem => by
        have hletter := hletters c hmem
        grind [Char.isAlpha, Char.isUpper, Char.isLower, Char.isDigit]
      refine iff_of_false (fun hsame => hnot ?_) fun hsame => hnot ?_
      · rw [← String.toList_ofList (l := Text.spellCamel (small.map _)), ← hsame]
        simp
      · rw [← hsame]
        exact List.mem_cons_self
    · rw [String.ofList_inj]

/-- **Every registry constant is a name in camel case.** -/
theorem endpointConstant_isCamelName (path : String) : Dart.IsCamelName (endpointConstant path) := by
  obtain ⟨c, rest, hchars, hlower⟩ := endpointConstant_startsSmall path
  obtain ⟨-, halphanum⟩ := endpointConstant_isAlphanum path
  rw [hchars, List.forall_mem_cons] at halphanum
  exact ⟨c, rest, hchars, hlower, halphanum.2⟩

/-! ## Constants that name nothing -/

/-- The words of the language that are no names anywhere. -/
def keywords : List String := [
  "assert", "break", "case", "catch", "class", "const", "continue", "default", "do", "else", "enum",
  "extends", "false", "final", "finally", "for", "if", "in", "is", "new", "null", "rethrow", "return",
  "super", "switch", "this", "throw", "true", "try", "var", "void", "while", "with"]

/-- **The constant of a path is a keyword** exactly if this is the only word that it is made of. -/
theorem endpointConstant_mem_keywords_iff (path : String) :
    endpointConstant path ∈ keywords ↔ ∃ keyword ∈ keywords, constantWords path = [keyword] := by
  have hspelled : ∀ keyword ∈ keywords, IsSpelling [keyword] ∧
      keyword = String.ofList (Text.spellCamel ([keyword].map String.toList)) := by
    decide +kernel
  have hkeyword : ∀ keyword ∈ keywords,
      (endpointConstant path = keyword ↔ constantWords path = [keyword]) := by
    intro keyword hmem
    obtain ⟨hspelling, hname⟩ := hspelled keyword hmem
    rw [← endpointConstant_eq_iff hspelling, ← hname]
  constructor
  · exact fun hmem => ⟨_, hmem, (hkeyword _ hmem).1 rfl⟩
  · rintro ⟨keyword, hmem, hwords⟩
    rwa [(hkeyword keyword hmem).2 hwords]

/-- **The constant of a path is that of the base address** exactly if it has the same words. -/
theorem endpointConstant_eq_apiBaseUrl_iff (path : String) :
    endpointConstant path = "apiBaseUrl" ↔ constantWords path = ["api", "base", "url"] := by
  have hspelling : IsSpelling ["api", "base", "url"] := by decide +kernel
  have hname : "apiBaseUrl" =
      String.ofList (Text.spellCamel (["api", "base", "url"].map String.toList)) := by
    decide +kernel
  rw [← endpointConstant_eq_iff hspelling, ← hname]

end DartLayers
