import DartLayers.Dart.Literal
import DartLayers.Proofs.Text.Names

/-!
# DartLayers — constants that Dart text mentions

The registry declares constants, and other files refer to them as members of its class. Both can be
read off the text: a declaration is a word after `static const` outside of string literals, a
reference is a word after the name of the class and a dot.

* **`wordsAfter`** — the words behind the occurrences of a mark in a text.
* **`declarations`**, **`references`** — the constants that a text declares and refers to.
* **`wordsAfter_append_of_quiet`**, **`wordsAfter_append_of_word`** — what has no mark in it is
  passed over.
-/

namespace DartLayers.Dart

/-! ## Words behind marks -/

/-- Characters of a name. -/
def isNameChar (c : Char) : Bool :=
  c.isAlphanum || c == '_'

/-- The words behind the occurrences of a mark in a text. -/
def wordsAfter (mark : List Char) : List Char → List String
  | [] => []
  | c :: rest =>
    if mark.isPrefixOf (c :: rest) then
      String.ofList (((c :: rest).drop mark.length).takeWhile isNameChar) :: wordsAfter mark rest
    else wordsAfter mark rest

/-- No occurrence of a mark starts in a text, whatever follows it. -/
def isQuiet (mark : List Char) : List Char → Bool
  | [] => true
  | c :: rest =>
    !mark.isPrefixOf (c :: rest) && !(c :: rest).isPrefixOf mark && isQuiet mark rest

/-- An occurrence of a mark that starts before a text, in a word without a character, does not end
in the text. -/
def isClear (c : Char) (mark text : List Char) : Bool :=
  (List.range mark.length).all fun k =>
    k == 0 || (mark.take k).contains c ||
      (!(mark.drop k).isPrefixOf text && !text.isPrefixOf (mark.drop k))

variable {mark : List Char}

/-- Where no mark starts the text goes on. -/
theorem wordsAfter_cons_of_not_prefix {c : Char} {text : List Char} (h : ¬ mark <+: c :: text) :
    wordsAfter mark (c :: text) = wordsAfter mark text := by
  rw [wordsAfter, if_neg (by rwa [List.isPrefixOf_iff_prefix])]

/-- Where a mark starts the word behind it is found. -/
theorem wordsAfter_cons_of_eq {c : Char} {text behind : List Char} (h : mark ++ behind = c :: text) :
    wordsAfter mark (c :: text) =
      String.ofList (behind.takeWhile isNameChar) :: wordsAfter mark text := by
  have hprefix : mark.isPrefixOf (c :: text) = true :=
    List.isPrefixOf_iff_prefix.2 ⟨behind, h⟩
  rw [wordsAfter, if_pos hprefix, ← h, List.drop_left]

/-- Of two beginnings of one text one is the beginning of the other. -/
theorem isPrefixOf_append_cases {part text rest : List Char}
    (h : part.isPrefixOf (text ++ rest) = true) :
    part.isPrefixOf text = true ∨ text.isPrefixOf part = true := by
  rw [List.isPrefixOf_iff_prefix] at h
  rw [List.isPrefixOf_iff_prefix, List.isPrefixOf_iff_prefix]
  exact List.prefix_or_prefix_of_prefix h (List.prefix_append text rest)

/-- A quiet text is passed over. -/
theorem wordsAfter_append_of_quiet {text : List Char} (h : isQuiet mark text = true)
    (rest : List Char) : wordsAfter mark (text ++ rest) = wordsAfter mark rest := by
  induction text with
  | nil => rfl
  | cons c text ih =>
    rw [isQuiet, Bool.and_eq_true, Bool.and_eq_true, Bool.not_eq_true', Bool.not_eq_true'] at h
    obtain ⟨⟨hmark, hpart⟩, hrest⟩ := h
    have hnone : mark.isPrefixOf (c :: text ++ rest) = false := by
      rw [Bool.eq_false_iff]
      intro hstarts
      rcases isPrefixOf_append_cases hstarts with hfound | hfound
      · rw [hmark] at hfound
        cases hfound
      · rw [hpart] at hfound
        cases hfound
    rw [List.cons_append, wordsAfter, ← List.cons_append, hnone]
    simpa using ih hrest

/-- Where a text is clear no mark that starts before it ends in it. -/
theorem not_prefix_of_isClear {c : Char} {text : List Char} (hclear : isClear c mark text = true)
    {before behind : List Char} (hmark : mark = before ++ behind) (hbefore : before ≠ [])
    (hword : c ∉ before) (hbehind : behind ≠ []) (rest : List Char) :
    ¬ behind <+: text ++ rest := by
  intro hprefix
  have hlength : before.length < mark.length := by
    rw [hmark, List.length_append]
    exact Nat.lt_add_of_pos_right (List.length_pos_iff.2 hbehind)
  have hdrop : mark.drop before.length = behind := by
    rw [hmark, List.drop_left]
  have htake : mark.take before.length = before := by
    rw [hmark, List.take_left]
  have hplace := List.all_eq_true.1 hclear before.length (List.mem_range.2 hlength)
  rw [hdrop, htake, Bool.or_eq_true, Bool.or_eq_true, Bool.and_eq_true, Bool.not_eq_true',
    Bool.not_eq_true', List.contains_iff_mem] at hplace
  rcases hplace with (hzero | hmem) | ⟨hfirst, hsecond⟩
  · exact hbefore (List.length_eq_zero_iff.1 (by simpa using hzero))
  · exact hword hmem
  · rcases isPrefixOf_append_cases (List.isPrefixOf_iff_prefix.2 hprefix) with hfound | hfound
    · rw [hfirst] at hfound
      cases hfound
    · rw [hsecond] at hfound
      cases hfound

/-- A word without a character of the mark is passed over in front of a text where no mark ends. -/
theorem wordsAfter_append_of_word {word text : List Char} {c : Char} (hc : c ∈ mark)
    (hword : c ∉ word) (hclear : isClear c mark text = true) (rest : List Char) :
    wordsAfter mark (word ++ (text ++ rest)) = wordsAfter mark (text ++ rest) := by
  induction word with
  | nil => rfl
  | cons d word ih =>
    rw [List.mem_cons, not_or] at hword
    have hnone : mark.isPrefixOf (d :: word ++ (text ++ rest)) = false := by
      rw [Bool.eq_false_iff, ne_eq, List.isPrefixOf_iff_prefix]
      intro hprefix
      have hfresh : c ∉ d :: word := by
        rw [List.mem_cons, not_or]
        exact hword
      rcases List.prefix_or_prefix_of_prefix hprefix (List.prefix_append _ _) with hinside | hacross
      · exact hfresh (hinside.subset hc)
      · obtain ⟨behind, hmark⟩ := hacross
        rw [← hmark, List.prefix_append_right_inj] at hprefix
        refine not_prefix_of_isClear hclear hmark.symm (List.cons_ne_nil d word) hfresh ?_ rest
          hprefix
        rintro rfl
        rw [List.append_nil] at hmark
        exact hfresh (hmark ▸ hc)
    rw [List.cons_append, wordsAfter, ← List.cons_append, hnone]
    simpa using ih hword.2

/-- Whether a text begins with a character that ends the word before it. -/
def endsWord (text : List Char) : Bool :=
  text.head?.any fun c => !isNameChar c

/-- A mark is found behind a quiet text, and the word behind it. -/
theorem wordsAfter_mark {lead others word text : List Char} {first c : Char}
    (hmark : mark = first :: others) (hlead : isQuiet mark lead = true)
    (hothers : isQuiet mark others = true) (hc : c ∈ mark) (hname : isNameChar c = false)
    (hword : ∀ d ∈ word, isNameChar d = true) (hends : endsWord text = true)
    (hclear : isClear c mark text = true) (rest : List Char) :
    wordsAfter mark (lead ++ mark ++ (word ++ (text ++ rest))) =
      String.ofList word :: wordsAfter mark (text ++ rest) := by
  have hfound : mark.isPrefixOf (first :: (others ++ (word ++ (text ++ rest)))) = true := by
    rw [List.isPrefixOf_iff_prefix, hmark]
    exact List.prefix_append (first :: others) _
  have hbehind : (first :: (others ++ (word ++ (text ++ rest)))).drop mark.length =
      word ++ (text ++ rest) := by
    rw [hmark, ← List.cons_append, List.drop_left]
  have htaken : (word ++ (text ++ rest)).takeWhile isNameChar = word := by
    rw [List.takeWhile_append_of_pos hword]
    cases text with
    | nil => cases hends
    | cons stop text =>
      have hstop : ¬ isNameChar stop = true := by simpa [endsWord] using hends
      rw [List.cons_append, List.takeWhile_cons_of_neg hstop, List.append_nil]
  have hfresh : c ∉ word := fun hmem => by
    rw [hword c hmem] at hname
    cases hname
  rw [List.append_assoc, wordsAfter_append_of_quiet hlead]
  conv => lhs; arg 2; rw [hmark, List.cons_append]
  rw [wordsAfter, if_pos hfound, hbehind, htaken, wordsAfter_append_of_quiet hothers,
    wordsAfter_append_of_word hc hfresh hclear]

/-- A character that is in no mark and in no word parts a text. -/
theorem wordsAfter_append_cons {stop : Char} (hmark : stop ∉ mark) (hstop : isNameChar stop = false)
    (text rest : List Char) :
    wordsAfter mark (text ++ stop :: rest) =
      wordsAfter mark text ++ wordsAfter mark (stop :: rest) := by
  induction text with
  | nil => rfl
  | cons c text ih =>
    by_cases hfound : mark <+: c :: text
    · -- the mark is in the text, and the word behind it ends at the character at the latest
      obtain ⟨behind, hbehind⟩ := hfound
      have hword : (behind ++ stop :: rest).takeWhile isNameChar = behind.takeWhile isNameChar := by
        rw [List.takeWhile_append, List.takeWhile_cons_of_neg (by simp [hstop]), List.append_nil]
        split
        · rename_i hall
          exact ((List.takeWhile_prefix isNameChar).eq_of_length hall).symm
        · rfl
      have hacross : mark ++ (behind ++ stop :: rest) = c :: (text ++ stop :: rest) := by
        rw [← List.append_assoc, hbehind, List.cons_append]
      rw [List.cons_append, wordsAfter_cons_of_eq hacross, hword, ih,
        wordsAfter_cons_of_eq hbehind, List.cons_append]
    · have hacross : ¬ mark <+: c :: (text ++ stop :: rest) := by
        intro hprefix
        rw [← List.cons_append] at hprefix
        rcases List.prefix_or_prefix_of_prefix hprefix (List.prefix_append _ _) with
          hinside | ⟨behind, hbehind⟩
        · exact hfound hinside
        · rw [← hbehind, List.prefix_append_right_inj] at hprefix
          cases behind with
          | nil => exact hfound ⟨[], by rw [List.append_nil, ← hbehind, List.append_nil]⟩
          | cons first behind =>
            obtain ⟨tail, htail⟩ := hprefix
            obtain ⟨hfirst, -⟩ := List.cons.inj htail
            apply hmark
            rw [← hbehind, ← hfirst]
            exact List.mem_append_right _ (List.mem_cons_self ..)
      rw [List.cons_append, wordsAfter_cons_of_not_prefix hacross, ih,
        wordsAfter_cons_of_not_prefix hfound]

/-! ## Declarations and references -/

/-- Dart text without the texts in its double-quoted literals. -/
def withoutTexts : (isInside : Bool) → List Char → List Char
  | _, [] => []
  | false, c :: rest => c :: withoutTexts (c == '"') rest
  | true, '\\' :: _ :: rest => withoutTexts true rest
  | true, c :: rest => if c == '"' then c :: withoutTexts false rest else withoutTexts true rest

/-- Outside of literals every character stays. -/
theorem withoutTexts_append {text : List Char} (h : '"' ∉ text) (rest : List Char) :
    withoutTexts false (text ++ rest) = text ++ withoutTexts false rest := by
  induction text with
  | nil => rfl
  | cons c text ih =>
    rw [List.mem_cons, not_or] at h
    have hc : (c == '"') = false := by simpa using fun heq : c = '"' => h.1 heq.symm
    rw [List.cons_append, withoutTexts, hc, ih h.2, List.cons_append]

/-- A text that was written into a literal is left out. -/
theorem withoutTexts_escape (text rest : List Char) :
    withoutTexts true (escapeChars text ++ '"' :: rest) = '"' :: withoutTexts false rest := by
  induction text with
  | nil => rfl
  | cons c text ih =>
    rw [escapeChars]
    split
    · rw [List.cons_append, List.cons_append, withoutTexts]
      exact ih
    · rename_i hc
      have hbackslash : c ≠ '\\' := by
        rintro rfl
        exact hc (by decide)
      have hquote : c ≠ '"' := by
        rintro rfl
        exact hc (by decide)
      simp [withoutTexts, hbackslash, hquote, ih]

/-- Whether a text ends with the first quote in it. -/
def opensLiteral (text : List Char) : Bool :=
  text.getLast? == some '"' && !text.dropLast.contains '"'

/-- Whether a text begins with the only quote in it. -/
def closesLiteral (text : List Char) : Bool :=
  text.head? == some '"' && !text.tail.contains '"'

/-- A literal with a text that was written into it is left empty. -/
theorem withoutTexts_literal {opening closing : List Char} (hopen : opensLiteral opening = true)
    (hclose : closesLiteral closing = true) (text rest : List Char) :
    withoutTexts false (opening ++ (escapeChars text ++ (closing ++ rest))) =
      opening ++ (closing ++ withoutTexts false rest) := by
  rw [opensLiteral, Bool.and_eq_true, beq_iff_eq, Bool.not_eq_true', List.contains_eq_mem,
    decide_eq_false_iff_not] at hopen
  rw [closesLiteral, Bool.and_eq_true, beq_iff_eq, Bool.not_eq_true', List.contains_eq_mem,
    decide_eq_false_iff_not] at hclose
  obtain ⟨front, rfl⟩ := List.getLast?_eq_some_iff.1 hopen.1
  obtain ⟨back, rfl⟩ := List.head?_eq_some_iff.1 hclose.1
  rw [List.dropLast_concat] at hopen
  have hopened : withoutTexts false ('"' :: (escapeChars text ++ '"' :: (back ++ rest))) =
      '"' :: '"' :: withoutTexts false (back ++ rest) := by
    rw [withoutTexts, show ('"' == '"') = true from rfl, withoutTexts_escape]
  rw [List.append_assoc, withoutTexts_append hopen.2, List.singleton_append, List.cons_append,
    hopened, withoutTexts_append (by simpa using hclose.2), List.append_assoc,
    List.singleton_append, List.cons_append]

/-- The constants that Dart text declares. -/
def declarations (text : String) : List String :=
  wordsAfter "static const ".toList (withoutTexts false text.toList)

/-- The constants of the registry that Dart text refers to. -/
def references (text : String) : List String :=
  wordsAfter "ApiList.".toList text.toList

end DartLayers.Dart
