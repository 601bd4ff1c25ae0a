import DartLayers.Proofs.Endpoint.Constant

/-!
# DartLayers — snake case as a normal form

A text in snake case has the words of the text that it was made of, written small. Lowering a word
removes the boundaries inside it and makes no new one, because a boundary needs a capital behind it;
the underscores keep the words apart. So a spelling that is made of words alone does not change when
the text is put in snake case first.

* **`Text.words_of_small`** — letters and digits without a capital are one word.
* **`Text.words_snakeChars`** — the words of a text in snake case.
* **`Text.snake_isNormalForm`** — every spelling can be made from the one in snake case.
-/

namespace DartLayers.Text

/-! ## Words without capitals -/

/-- A word ends only before a capital. -/
theorem endsWordBetween_of_not_isUpper {next : Char} (h : next.isUpper = false) (prev : Char)
    (after : Option Char) : endsWordBetween prev next after = false := by
  simp [endsWordBetween, h]

/-- **Letters and digits without a capital** are one word. -/
theorem words_of_small {word : List Char} (hne : word ≠ [])
    (h : ∀ c ∈ word, c.isAlphanum ∧ c.isUpper = false) : words word = [word] := by
  induction word with
  | nil => exact absurd rfl hne
  | cons c rest ih =>
    rw [List.forall_mem_cons] at h
    cases rest with
    | nil => simp [words, h.1.1, joinsNext]
    | cons next others =>
      have hnext := h.2 next List.mem_cons_self
      have hjoins : joinsNext c (next :: others) = true := by
        rw [joinsNext, hnext.1, endsWordBetween_of_not_isUpper hnext.2]
        rfl
      rw [words, if_pos h.1.1, if_pos hjoins, ih (List.cons_ne_nil _ _) h.2, consFirst]

/-- A word that is written small is one word. -/
theorem words_map_toLower {text word : List Char} (h : word ∈ words text) :
    words (word.map Char.toLower) = [word.map Char.toLower] := by
  obtain ⟨hne, halphanum⟩ := words_spec h
  refine words_of_small (by simpa using hne) (List.forall_mem_map.2 fun c hc => ?_)
  exact ⟨isAlphanum_toLower (halphanum c hc), by simp⟩

/-! ## Snake case -/

/-- **The words of a text in snake case** are its words, written small. -/
theorem words_snakeChars (text : List Char) :
    words (snakeChars text) = (words text).map (List.map Char.toLower) := by
  rw [snakeChars, words_intercalate]
  exact List.forall_mem_map.2 fun word hword => words_map_toLower hword

theorem snakeChars_snakeChars (text : List Char) :
    snakeChars (snakeChars text) = snakeChars text := by
  have hlower : ∀ word : List Char,
      (word.map Char.toLower).map Char.toLower = word.map Char.toLower := by simp
  rw [snakeChars, words_snakeChars, List.map_map, snakeChars]
  exact congrArg _ (List.map_congr_left fun word _ => hlower word)

theorem pascalChars_snakeChars (text : List Char) :
    pascalChars (snakeChars text) = pascalChars text := by
  rw [pascalChars, words_snakeChars, List.flatMap_map, pascalChars]
  exact congrArg List.flatten (List.map_congr_left fun word _ => capitalize_map_toLower word)

theorem camelChars_snakeChars (text : List Char) :
    camelChars (snakeChars text) = camelChars text := by
  rw [camelChars, pascalChars_snakeChars, camelChars]

/-- Words of texts are found again when they are joined. -/
theorem words_intercalate_words (texts : List (List Char)) :
    words (['_'].intercalate (texts.flatMap words)) = texts.flatMap words := by
  refine words_intercalate fun word hword => ?_
  obtain ⟨text, -, hmem⟩ := List.mem_flatMap.1 hword
  exact words_of_mem hmem

theorem splitWords_intercalate (text : String) :
    splitWords ("_".intercalate (splitWords text)) = splitWords text := by
  have hwords := words_intercalate_words [text.toList]
  rw [List.flatMap_singleton] at hwords
  rw [splitWords, splitWords, String.toList_intercalate, List.map_map]
  have hlists : (words text.toList).map (String.toList ∘ String.ofList) = words text.toList := by
    simp
  rw [hlists]
  exact congrArg _ hwords

/-- **Snake case is a normal form for all spellings.** A text has the spellings of its snake case, its
words are found again when they are joined by underscores, and so are those of the segments that make
up a registry constant. -/
theorem snake_isNormalForm (text : String) :
    toSnake (toSnake text) = toSnake text ∧ toPascal (toSnake text) = toPascal text ∧
      toCamel (toSnake text) = toCamel text ∧
      splitWords ("_".intercalate (splitWords text)) = splitWords text ∧
      words (['_'].intercalate ((constantSegments text.toList).flatMap words)) =
        (constantSegments text.toList).flatMap words := by
  refine ⟨?_, ?_, ?_, splitWords_intercalate text, words_intercalate_words _⟩
  · rw [toSnake, toSnake, String.toList_ofList, snakeChars_snakeChars]
  · rw [toPascal, toSnake, String.toList_ofList, pascalChars_snakeChars, toPascal]
  · rw [toCamel, toSnake, String.toList_ofList, camelChars_snakeChars, toCamel]

end DartLayers.Text
