import DartLayers.Proofs.Json.Document

/-!
# DartLayers — reading spelled documents

Every spelling of a document is read as the value that the document stands for. The reader goes
along the text as the grammar does, so each rule of the grammar has a lemma: what is read in front of
any rest that cannot belong to it.

* **`readChars_text`** — the inside of a string literal.
* **`readNumber_spelled`** — a number, in front of what ends it.
* **`readValue_spelled`** — a value; its bound need not exceed its length.
* **`readJson_spelled`** — a whole text.
-/

namespace DartLayers

open JsonReader

namespace Document

variable {text spelled rest blanks : List Char} {c : Char}

/-! ## Blanks -/

theorem IsBlanks.isBlank (h : IsBlanks blanks) : ∀ c ∈ blanks, isBlank c = true := by
  intro c hc
  rcases h c hc with rfl | rfl | rfl | rfl <;> rfl

theorem skipBlanks_append (h : IsBlanks blanks) (hc : isBlank c = false) (rest : List Char) :
    skipBlanks (blanks ++ c :: rest) = c :: rest := by
  rw [skipBlanks, List.dropWhile_append_of_pos h.isBlank,
    List.dropWhile_cons_of_neg (by simp [hc])]

theorem skipBlanks_of_isBlanks (h : IsBlanks blanks) : skipBlanks blanks = [] := by
  have hskip : (blanks ++ []).dropWhile isBlank = [] := List.dropWhile_append_of_pos h.isBlank
  rwa [List.append_nil] at hskip

/-! ## Texts -/

theorem hexValue?_of_isHexDigit {value : Nat} (h : IsHexDigit value c) :
    Text.hexValue? c = some value := by
  have hlower : ∀ i : Fin 16, Text.hexValue? ("0123456789abcdef".toList[i]) = some i.val := by
    decide
  have hupper : ∀ i : Fin 16, Text.hexValue? ("0123456789ABCDEF".toList[i]) = some i.val := by
    decide
  rcases h with h | h
  · obtain ⟨hlt, rfl⟩ := List.getElem?_eq_some_iff.1 h
    exact hlower ⟨value, hlt⟩
  · obtain ⟨hlt, rfl⟩ := List.getElem?_eq_some_iff.1 h
    exact hupper ⟨value, hlt⟩

theorem exists_unit_of_spells {code : Nat} {digits : List Char} (h : SpellsUnit code digits) :
    ∃ a b c d, digits = [a, b, c, d] ∧ unit? a b c d = some code := by
  cases h with
  | mk ha hb hc hd =>
    refine ⟨_, _, _, _, rfl, ?_⟩
    simp [unit?, hexValue?_of_isHexDigit ha, hexValue?_of_isHexDigit hb,
      hexValue?_of_isHexDigit hc, hexValue?_of_isHexDigit hd]

/-- A character is no half of a pair. -/
theorem loneUnit_toNat (c : Char) : isHighUnit c.toNat = false ∧ loneUnit c.toNat = c := by
  have hvalid : c.toNat < 0xD800 ∨ (0xDFFF < c.toNat ∧ c.toNat < 0x110000) := c.valid
  have hhigh : isHighUnit c.toNat = false := by
    simp only [isHighUnit, Bool.and_eq_false_iff, decide_eq_false_iff_not]
    omega
  have hlow : isLowUnit c.toNat = false := by
    simp only [isLowUnit, Bool.and_eq_false_iff, decide_eq_false_iff_not]
    omega
  refine ⟨hhigh, ?_⟩
  rw [loneUnit, hhigh, hlow]
  exact Char.ofNat_toNat c

/-- One character of a text, however it is spelled. Something has to follow it, as behind the last
one the closing quote does. -/
theorem readChars_char (opening : Nat) (h : SpellsChar c spelled) (hrest : rest ≠ []) :
    readChars opening (spelled ++ rest) = consChar c (readChars opening rest) := by
  obtain ⟨next, after, rfl⟩ := List.exists_cons_of_ne_nil hrest
  cases h with
  | plain hcontrol hquote hbackslash =>
    have hnot : ¬ c.toNat < 0x20 := by omega
    simp [readChars, hbackslash, hnot]
  | letter h =>
    have hu : ∀ pair ∈ letterEscapes, pair.1 ≠ 'u' ∧ escaped? pair.1 = some pair.2 := by decide
    obtain ⟨hne, hescaped⟩ := hu _ h
    simp [readChars, hne, hescaped]
  | unit h =>
    obtain ⟨a, b, d, e, rfl, hunit⟩ := exists_unit_of_spells h
    obtain ⟨hhigh, hlone⟩ := loneUnit_toNat c
    -- Another escape may follow, but only the first half of a pair would look at it.
    simp only [List.cons_append, List.nil_append]
    rw [readChars.eq_def]
    split <;> grind
  | @pair _ high low _ _ hhigh hlow hhighBound hlowBound hcode =>
    obtain ⟨a, b, d, e, rfl, hfirst⟩ := exists_unit_of_spells hhigh
    obtain ⟨a', b', d', e', rfl, hsecond⟩ := exists_unit_of_spells hlow
    have hisHigh : isHighUnit (0xD800 + high) = true := by
      simp only [isHighUnit, Bool.and_eq_true, decide_eq_true_eq]
      omega
    have hisLow : isLowUnit (0xDC00 + low) = true := by
      simp only [isLowUnit, Bool.and_eq_true, decide_eq_true_eq]
      omega
    have hpaired : pairedUnits (0xD800 + high) (0xDC00 + low) = c := by
      rw [pairedUnits, Nat.add_sub_cancel_left, Nat.add_sub_cancel_left, ← hcode]
      exact Char.ofNat_toNat c
    simp [readChars, hfirst, hsecond, hisHigh, hisLow, hpaired]

/-- The inside of a string literal is read up to its quote. -/
theorem readChars_text (opening : Nat) {inside : List Char} (h : SpellsText text inside)
    (rest : List Char) : readChars opening (inside ++ '"' :: rest) = .ok (text, rest) := by
  induction h with
  | nil => rfl
  | cons hchar _ ih => rw [List.append_assoc, readChars_char opening hchar (by simp), ih, consChar]

/-! ## Numbers -/

/-- No digit follows. -/
def EndsDigits (rest : List Char) : Prop :=
  ∀ c ∈ rest.head?, c.isDigit = false

/-- Nothing follows that could belong to a number. -/
def EndsNumber (rest : List Char) : Prop :=
  ∀ c ∈ rest.head?, c.isDigit = false ∧ c ≠ '.' ∧ c ≠ 'e' ∧ c ≠ 'E'

theorem EndsNumber.endsDigits (h : EndsNumber rest) : EndsDigits rest :=
  fun c hc => (h c hc).1

section

variable {digits : List Char} (hdigits : ∀ c ∈ digits, c.isDigit = true) (hrest : EndsDigits rest)

include hdigits hrest

theorem takeWhile_digits : (digits ++ rest).takeWhile Char.isDigit = digits := by
  have hnone : rest.takeWhile Char.isDigit = [] := by
    cases rest with
    | nil => rfl
    | cons c others => simp [hrest c rfl]
  rw [List.takeWhile_append_of_pos hdigits, hnone, List.append_nil]

theorem dropWhile_digits : (digits ++ rest).dropWhile Char.isDigit = rest := by
  rw [List.dropWhile_append_of_pos hdigits]
  cases rest with
  | nil => rfl
  | cons c others => simp [hrest c rfl]

end

theorem takeWhole_spelled {whole : List Char} (h : IsWholePart whole) (hrest : EndsDigits rest) :
    takeWhole (whole ++ rest) = some (whole, rest) := by
  obtain ⟨⟨hne, hdigits⟩, hzero⟩ := h
  obtain ⟨first, others, rfl⟩ := List.exists_cons_of_ne_nil hne
  by_cases hfirst : first = '0'
  · subst hfirst
    obtain rfl : others = [] := by simpa using hzero rfl
    rfl
  · have hothers : ∀ c ∈ others, c.isDigit = true := fun c hc => hdigits c (List.mem_cons_of_mem _ hc)
    have hdigit : first.isDigit = true := hdigits first List.mem_cons_self
    simp [takeWhole, hdigit, takeWhile_digits hothers hrest, dropWhile_digits hothers hrest]

theorem takeFraction_spelled {fraction : Option (List Char)} (h : SpellsFraction fraction spelled)
    (hrest : EndsDigits rest) (hpoint : rest.head? ≠ some '.') :
    takeFraction (spelled ++ rest) = (fraction, rest) := by
  cases h with
  | absent =>
    cases rest with
    | nil => rfl
    | cons c others =>
      have hc : c ≠ '.' := by simpa using hpoint
      simp [takeFraction, hc]
  | @present digits h =>
    obtain ⟨hne, hdigits⟩ := h
    rw [List.cons_append, takeFraction, takeWhile_digits hdigits hrest,
      dropWhile_digits hdigits hrest]
    cases digits with
    | nil => exact absurd rfl hne
    | cons => rfl

/-- The letter of an exponent, with the sign taken off what is behind it. -/
theorem takeExponent_signed {letter : Char} {negative : Bool} {digits signed : List Char}
    (hletter : letter = 'e' ∨ letter = 'E') (h : IsDigits digits) (hrest : EndsDigits rest)
    (hsign : Text.takeSign signed = (negative, digits ++ rest)) :
    takeExponent (letter :: signed) = (some (negative, digits), rest) := by
  obtain ⟨hne, hdigits⟩ := h
  have hmark : (letter == 'e' || letter == 'E') = true := by
    rcases hletter with rfl | rfl <;> rfl
  simp [takeExponent, hmark, hsign, takeWhile_digits hdigits hrest, dropWhile_digits hdigits hrest]

theorem takeSign_digits {digits : List Char} (h : IsDigits digits) (rest : List Char) :
    Text.takeSign (digits ++ rest) = (false, digits ++ rest) := by
  obtain ⟨hne, hdigits⟩ := h
  obtain ⟨first, others, rfl⟩ := List.exists_cons_of_ne_nil hne
  have hfirst : first.isDigit = true := hdigits first List.mem_cons_self
  have hminus : first ≠ '-' := by rintro rfl; revert hfirst; decide
  have hplus : first ≠ '+' := by rintro rfl; revert hfirst; decide
  unfold Text.takeSign
  split <;> simp_all

theorem takeExponent_spelled {exponent : Option (Bool × List Char)}
    (h : SpellsExponent exponent spelled) (hrest : EndsNumber rest) :
    takeExponent (spelled ++ rest) = (exponent, rest) := by
  cases h with
  | absent =>
    cases rest with
    | nil => rfl
    | cons c others =>
      obtain ⟨-, -, hlower, hupper⟩ := hrest c rfl
      simp [takeExponent, hlower, hupper]
  | unsigned hletter h =>
    exact takeExponent_signed hletter h hrest.endsDigits (takeSign_digits h rest)
  | plus hletter h => exact takeExponent_signed hletter h hrest.endsDigits rfl
  | minus hletter h => exact takeExponent_signed hletter h hrest.endsDigits rfl

theorem endsDigits_exponent {exponent : Option (Bool × List Char)}
    (h : SpellsExponent exponent spelled) (hrest : EndsNumber rest) :
    EndsDigits (spelled ++ rest) ∧ (spelled ++ rest).head? ≠ some '.' := by
  cases h with
  | absent => exact ⟨hrest.endsDigits, fun hpoint => (hrest '.' hpoint).2.1 rfl⟩
  | unsigned hletter | plus hletter | minus hletter =>
    rcases hletter with rfl | rfl <;> simp [EndsDigits]

theorem endsDigits_fraction {fraction : Option (List Char)} (h : SpellsFraction fraction spelled)
    (hrest : EndsDigits rest) : EndsDigits (spelled ++ rest) := by
  cases h with
  | absent => exact hrest
  | present => simp [EndsDigits]

theorem takeNumber_unsigned {whole afterWhole afterFraction : List Char}
    {fraction : Option (List Char)} {exponent : Option (Bool × List Char)}
    (hminus : text.head? ≠ some '-') (hwhole : takeWhole text = some (whole, afterWhole))
    (hfraction : takeFraction afterWhole = (fraction, afterFraction))
    (hexponent : takeExponent afterFraction = (exponent, rest)) :
    takeNumber text = some (⟨false, whole, fraction, exponent⟩, rest) := by
  fun_cases takeNumber text with
  | case1 negative digits hsign => split at hsign <;> simp_all
  | case2 negative digits hsign => split at hsign <;> simp_all

theorem takeNumber_signed (negative : Bool) {whole afterWhole afterFraction : List Char}
    {fraction : Option (List Char)} {exponent : Option (Bool × List Char)}
    (hwhole : takeWhole text = some (whole, afterWhole)) (hpart : IsWholePart whole)
    (htext : text = whole ++ afterWhole)
    (hfraction : takeFraction afterWhole = (fraction, afterFraction))
    (hexponent : takeExponent afterFraction = (exponent, rest)) :
    takeNumber ((if negative then ['-'] else []) ++ text) =
      some (⟨negative, whole, fraction, exponent⟩, rest) := by
  cases negative with
  | true =>
    simp only [takeNumber, if_true, List.cons_append, List.nil_append, hwhole, hfraction, hexponent]
  | false =>
    refine takeNumber_unsigned ?_ hwhole hfraction hexponent
    obtain ⟨first, others, rfl⟩ := List.exists_cons_of_ne_nil hpart.1.1
    have hfirst := hpart.1.2 first List.mem_cons_self
    subst htext
    rintro ⟨rfl⟩
    revert hfirst
    decide

theorem takeNumber_spelled {literal : NumberLiteral} (h : SpellsNumber literal spelled)
    (hrest : EndsNumber rest) : takeNumber (spelled ++ rest) = some (literal, rest) := by
  obtain @⟨negative, whole, fractionText, exponentText, fraction, exponent, hwhole, hfraction,
    hexponent⟩ := h
  obtain ⟨hends, hpoint⟩ := endsDigits_exponent hexponent hrest
  have hexponentTaken := takeExponent_spelled hexponent hrest
  have hfractionTaken := takeFraction_spelled hfraction hends hpoint
  have hwholeTaken := takeWhole_spelled hwhole (endsDigits_fraction hfraction hends)
  simp only [List.append_assoc]
  exact takeNumber_signed negative hwholeTaken hwhole rfl hfractionTaken hexponentTaken

/-- A number that is not too long has a value. -/
theorem value_of_isReadable {literal : NumberLiteral} (h : IsReadable [literal]) :
    literal.value = .ok literal.number := by
  obtain ⟨negative, whole, fraction, exponent⟩ := literal
  cases fraction <;> cases exponent
  · have hlength : whole.length ≤ Text.maxIntegerDigits := h _ List.mem_cons_self rfl
    have hnot : ¬ whole.length > Text.maxIntegerDigits := Nat.not_lt.2 hlength
    simp only [NumberLiteral.value, if_neg hnot]
    rfl
  all_goals rfl

theorem readNumber_spelled {literal : NumberLiteral} (h : SpellsNumber literal spelled)
    (hreadable : IsReadable [literal]) (hrest : EndsNumber rest) :
    readNumber (spelled ++ rest) = .ok (literal.number, rest) := by
  rw [readNumber, takeNumber_spelled h hrest]
  simp only [value_of_isReadable hreadable]
  rfl

/-! ## Values -/

/-- What stands behind a value: a blank, a comma, a closing bracket, or nothing. -/
def IsDelimited (rest : List Char) : Prop :=
  ∀ c ∈ rest.head?, isBlank c = true ∨ c = ',' ∨ c = ']' ∨ c = '\x7d'

theorem IsDelimited.endsNumber (h : IsDelimited rest) : EndsNumber rest := by
  intro c hc
  rcases h c hc with hblank | rfl | rfl | rfl
  · simp only [isBlank, Bool.or_eq_true, beq_iff_eq] at hblank
    rcases hblank with ((rfl | rfl) | rfl) | rfl <;> decide
  all_goals decide

/-- Behind blanks there is what there is without them. -/
theorem isDelimited_append (h : IsBlanks blanks) (hrest : IsDelimited rest) :
    IsDelimited (blanks ++ rest) := by
  cases blanks with
  | nil => exact hrest
  | cons c others =>
    rintro d ⟨rfl⟩
    exact .inl (h.isBlank c List.mem_cons_self)

/-- A number starts with a minus or a digit. -/
theorem head_of_spellsNumber {literal : NumberLiteral} (h : SpellsNumber literal spelled) :
    ∃ c others, spelled = c :: others ∧ (c.isDigit = true ∨
      c = '-' ∧ ∃ d more, others = d :: more ∧ d.isDigit = true) := by
  obtain @⟨negative, whole, _, _, _, _, ⟨⟨hne, hdigits⟩, -⟩, -, -⟩ := h
  obtain ⟨first, others, rfl⟩ := List.exists_cons_of_ne_nil hne
  have hfirst := hdigits first List.mem_cons_self
  cases negative with
  | true => exact ⟨'-', _, rfl, .inr ⟨rfl, first, _, rfl, hfirst⟩⟩
  | false => exact ⟨first, _, rfl, .inl hfirst⟩

theorem readValue_number {literal : NumberLiteral} (bound : Nat) (h : SpellsNumber literal spelled)
    (rest : List Char) : readValue (bound + 1) (spelled ++ rest) = readNumber (spelled ++ rest) := by
  obtain ⟨c, others, rfl, hc | ⟨rfl, d, more, rfl, hd⟩⟩ := head_of_spellsNumber h
  -- No digit starts another value; behind a minus, only the infinity does.
  · rw [readValue] <;> (intro after heq; simp_all)
  · rw [readValue] <;> (intro after heq; simp_all)

/-- A value starts with a character that is no blank, closes no array and marks no byte order. -/
theorem head_of_spells {document : Document} (h : Spells document spelled) :
    ∃ c others, spelled = c :: others ∧ isBlank c = false ∧ c ≠ ']' ∧ c ≠ '\uFEFF' := by
  cases h with
  | null | true | false | emptyArray | array | emptyObject | object =>
    exact ⟨_, _, rfl, by decide, by decide, by decide⟩
  | string h =>
    cases h
    exact ⟨_, _, rfl, by decide, by decide, by decide⟩
  | number h =>
    obtain ⟨c, others, rfl, hc | ⟨rfl, -⟩⟩ := head_of_spellsNumber h
    · refine ⟨c, others, rfl, ?_, ?_, ?_⟩
      · rw [Bool.eq_false_iff]
        intro hblank
        simp only [isBlank, Bool.or_eq_true, beq_iff_eq] at hblank
        rcases hblank with ((rfl | rfl) | rfl) | rfl <;> exact absurd hc (by decide)
      all_goals
        rintro rfl
        exact absurd hc (by decide)
    · exact ⟨_, _, rfl, by decide, by decide, by decide⟩

theorem exists_inside {word : String} (h : SpellsString word spelled) :
    ∃ inside, spelled = '"' :: inside ∧ ∀ opening rest,
      readChars opening (inside ++ rest) = .ok (word.toList, rest) := by
  obtain ⟨htext⟩ := h
  refine ⟨_, rfl, fun opening rest => ?_⟩
  rw [List.append_assoc]
  exact readChars_text opening htext rest

/-- The blanks in front of a value are passed over. -/
theorem skipBlanks_spelled {document : Document} {before : List Char} (hbefore : IsBlanks before)
    (h : Spells document spelled) (rest : List Char) :
    skipBlanks (before ++ (spelled ++ rest)) = spelled ++ rest := by
  obtain ⟨c, others, rfl, hblank, -⟩ := head_of_spells h
  exact skipBlanks_append hbefore hblank _

theorem skipBlanks_key {key : String} {before : List Char} (hbefore : IsBlanks before)
    (h : SpellsString key spelled) (rest : List Char) :
    skipBlanks (before ++ (spelled ++ rest)) = spelled ++ rest := by
  obtain ⟨inside, rfl, -⟩ := exists_inside h
  exact skipBlanks_append hbefore (by decide) _

/-- An array with an item does not end at once. -/
theorem head_of_spellsItems {items : List Document} {inside : List Char}
    (h : SpellsItems items inside) (rest : List Char) :
    ∃ c others, skipBlanks (inside ++ rest) = c :: others ∧ c ≠ ']' := by
  cases h with
  | last hbefore hitem | more hbefore hitem =>
    obtain ⟨c, others, rfl, hblank, hclosing, -⟩ := head_of_spells hitem
    rw [List.append_assoc, List.append_assoc]
    exact ⟨c, _, skipBlanks_append hbefore hblank _, hclosing⟩

/-- Nor does an object with a member: a key comes first. -/
theorem head_of_spellsMembers {members : List (String × Document)} {inside : List Char}
    (h : SpellsMembers members inside) (rest : List Char) :
    ∃ others, skipBlanks (inside ++ rest) = '"' :: others := by
  cases h with
  | last hbefore hmember | more hbefore hmember =>
    obtain ⟨⟨-⟩, -⟩ := hmember
    rw [List.append_assoc, List.append_assoc]
    exact ⟨_, skipBlanks_append hbefore (by decide) _⟩

theorem isReadable_append {first others : List NumberLiteral} :
    IsReadable (first ++ others) ↔ IsReadable first ∧ IsReadable others := by
  simp only [IsReadable, List.mem_append, or_imp, forall_and]

theorem isDelimited_cons {c : Char} (h : c = ',' ∨ c = ']' ∨ c = '\x7d') (rest : List Char) :
    IsDelimited (c :: rest) := by
  rintro d ⟨rfl⟩
  exact .inr h

/-- How reading goes on behind the value of a member. -/
def afterMember (bound : Nat) (members : List (String × Json)) :
    List Char → Result (List (String × Json))
  | '\x7d' :: after => .ok (members, after)
  | ',' :: next => readMembers bound (skipBlanks next) members
  | other => failAt .comma other

theorem readMembers_member {key : String} {document : Document} {json : Json} {bound : Nat}
    {literal behindKey beforeValue : List Char} (hkey : SpellsString key literal)
    (hbehind : IsBlanks behindKey) (hbefore : IsBlanks beforeValue) (hvalue : Spells document spelled)
    (hread : readValue bound (spelled ++ rest) = .ok (json, rest)) (before : List (String × Json)) :
    readMembers (bound + 1) (literal ++ (behindKey ++ ':' :: (beforeValue ++ (spelled ++ rest))))
        before = afterMember bound (insertMember key json before) (skipBlanks rest) := by
  obtain ⟨inside, rfl, hreadKey⟩ := exists_inside hkey
  have hcolon := skipBlanks_append hbehind (by decide : isBlank ':' = false)
    (beforeValue ++ (spelled ++ rest))
  rw [List.cons_append, readMembers, hreadKey]
  simp only [hcolon, skipBlanks_spelled hbefore hvalue, hread, String.ofList_toList]
  rfl

-- The induction is on the spelling. The bound is for the length of what is still to be read, which
-- a bracket or a comma shortens at every call.
mutual

/-- **A spelled value is read**, whatever stands behind it. -/
theorem readValue_spelled {document : Document} {spelled : List Char} (rest : List Char)
    (bound : Nat) (h : Spells document spelled) (hreadable : IsReadable document.numbers)
    (hrest : IsDelimited rest) (hbound : spelled.length ≤ bound) :
    readValue bound (spelled ++ rest) = .ok (document.value, rest) := by
  obtain ⟨bound, rfl⟩ : ∃ less, bound = less + 1 := by
    obtain ⟨c, others, rfl, -⟩ := head_of_spells h
    rw [List.length_cons] at hbound
    exact ⟨bound - 1, by omega⟩
  -- The spelling decides which branch of the reader is taken; brackets only need what their first
  -- character is not.
  cases h with
  | null => rfl
  | true => rfl
  | false => rfl
  | number h =>
    rw [readValue_number bound h, readNumber_spelled h hreadable hrest.endsNumber]
    rfl
  | string h =>
    obtain ⟨inside, rfl, hread⟩ := exists_inside h
    rw [List.cons_append, readValue, hread]
    simp [Except.map, value]
  | emptyArray h =>
    have hskip := skipBlanks_append h (by decide : isBlank ']' = false) rest
    rw [List.cons_append, readValue, List.append_assoc]
    simp only [List.singleton_append, hskip]
    rfl
  | array h =>
    obtain ⟨c, others, hskip, hclosing⟩ := head_of_spellsItems h (']' :: rest)
    have hitems := readItems_spelled rest bound h hreadable (by
      simp only [List.length_cons, List.length_append] at hbound
      omega)
    rw [List.cons_append, readValue, List.append_assoc]
    simp only [List.singleton_append]
    rw [hskip] at hitems ⊢
    split
    · simp_all
    · rw [hitems]
      rfl
  | emptyObject h =>
    have hskip := skipBlanks_append h (by decide : isBlank '\x7d' = false) rest
    rw [List.cons_append, readValue, List.append_assoc]
    simp only [List.singleton_append, hskip]
    rfl
  | object h =>
    obtain ⟨others, hskip⟩ := head_of_spellsMembers h ('\x7d' :: rest)
    have hmembers := readMembers_spelled rest bound h hreadable (by
      simp only [List.length_cons, List.length_append] at hbound
      omega) []
    rw [List.cons_append, readValue, List.append_assoc]
    simp only [List.singleton_append]
    rw [hskip] at hmembers ⊢
    split
    · simp_all
    · rw [hmembers]
      rfl

/-- The items of an array are read up to its bracket. -/
theorem readItems_spelled {items : List Document} {inside : List Char} (rest : List Char)
    (bound : Nat) (h : SpellsItems items inside) (hreadable : IsReadable (itemNumbers items))
    (hbound : inside.length < bound) :
    readItems bound (skipBlanks (inside ++ ']' :: rest)) = .ok (itemValues items, rest) := by
  obtain ⟨bound, rfl⟩ : ∃ less, bound = less + 1 := ⟨bound - 1, by omega⟩
  cases h with
  | @last item before spelled behind hbefore hitem hbehind =>
    obtain ⟨hfirst, -⟩ := isReadable_append.1 hreadable
    simp only [List.length_append] at hbound
    have hread := readValue_spelled (behind ++ ']' :: rest) bound hitem hfirst
      (isDelimited_append hbehind (isDelimited_cons (by simp) rest)) (by omega)
    simp only [List.append_assoc]
    rw [skipBlanks_spelled hbefore hitem, readItems, hread]
    simp only [skipBlanks_append hbehind (by decide : isBlank ']' = false)]
    rfl
  | @more item others before spelled behind next hbefore hitem hbehind hothers =>
    obtain ⟨hfirst, hmore⟩ := isReadable_append.1 hreadable
    simp only [List.length_append, List.length_cons] at hbound
    have hread := readValue_spelled (behind ++ ',' :: (next ++ ']' :: rest)) bound hitem hfirst
      (isDelimited_append hbehind (isDelimited_cons (by simp) _)) (by omega)
    have hitems := readItems_spelled rest bound hothers hmore (by omega)
    simp only [List.append_assoc, List.cons_append]
    rw [skipBlanks_spelled hbefore hitem, readItems, hread]
    simp only [skipBlanks_append hbehind (by decide : isBlank ',' = false), hitems]
    rfl

/-- The members of an object are read up to its brace and added to those before. -/
theorem readMembers_spelled {members : List (String × Document)} {inside : List Char}
    (rest : List Char) (bound : Nat) (h : SpellsMembers members inside)
    (hreadable : IsReadable (memberNumbers members)) (hbound : inside.length < bound)
    (before : List (String × Json)) :
    readMembers bound (skipBlanks (inside ++ '\x7d' :: rest)) before =
      .ok ((memberValues members).foldl
        (fun members pair => insertMember pair.1 pair.2 members) before, rest) := by
  obtain ⟨bound, rfl⟩ : ∃ less, bound = less + 1 := ⟨bound - 1, by omega⟩
  -- The last member ends at the brace; another one ends at a comma and goes on behind it.
  cases h with
  | @last _ blanks spelled behind hblanks hmember hbehind =>
    obtain @⟨key, literal, behindKey, beforeValue, spelled, document, hkey, hbehindKey, hbeforeValue,
      hvalue⟩ := hmember
    obtain ⟨hfirst, -⟩ := isReadable_append.1 hreadable
    simp only [List.length_append, List.length_cons] at hbound
    have hread := readValue_spelled (behind ++ '\x7d' :: rest) bound hvalue hfirst
      (isDelimited_append hbehind (isDelimited_cons (by simp) rest)) (by omega)
    simp only [List.append_assoc, List.cons_append]
    rw [skipBlanks_key hblanks hkey,
      readMembers_member hkey hbehindKey hbeforeValue hvalue hread,
      skipBlanks_append hbehind (by decide : isBlank '\x7d' = false)]
    rfl
  | @more _ others blanks spelled behind next hblanks hmember hbehind hothers =>
    obtain @⟨key, literal, behindKey, beforeValue, spelled, document, hkey, hbehindKey, hbeforeValue,
      hvalue⟩ := hmember
    obtain ⟨hfirst, hmore⟩ := isReadable_append.1 hreadable
    simp only [List.length_append, List.length_cons] at hbound
    have hread := readValue_spelled (behind ++ ',' :: (next ++ '\x7d' :: rest)) bound hvalue hfirst
      (isDelimited_append hbehind (isDelimited_cons (by simp) _)) (by omega)
    have hmembers := readMembers_spelled rest bound hothers hmore (by omega)
      (insertMember key document.value before)
    simp only [List.append_assoc, List.cons_append]
    rw [skipBlanks_key hblanks hkey,
      readMembers_member hkey hbehindKey hbeforeValue hvalue hread,
      skipBlanks_append hbehind (by decide : isBlank ',' = false), afterMember, hmembers]
    rfl

end

/-! ## Whole texts -/

theorem readDocument_spelled {document : Document} (h : SpellsDocument document text)
    (hreadable : IsReadable document.numbers) : readDocument text = .ok document.value := by
  obtain @⟨before, spelled, behind, hbefore, hvalue, hbehind⟩ := h
  have hnoMark : (before ++ (spelled ++ behind)).head? ≠ some '\uFEFF' := by
    cases before with
    | nil =>
      obtain ⟨c, others, rfl, -, -, hmark⟩ := head_of_spells hvalue
      simpa using hmark
    | cons c others =>
      have hblank := hbefore.isBlank c List.mem_cons_self
      rintro ⟨rfl⟩
      exact absurd hblank (by decide)
  have hdelimited : IsDelimited behind := by
    have hnil : IsDelimited [] := fun c hc => nomatch hc
    simpa using isDelimited_append hbehind hnil
  have hread := readValue_spelled behind (2 * (before ++ (spelled ++ behind)).length + 1) hvalue
    hreadable hdelimited (by
      simp only [List.length_append]
      omega)
  unfold readDocument
  split
  · simp_all
  · rw [skipBlanks_spelled hbefore hvalue, hread]
    simp only [skipBlanks_of_isBlanks hbehind]

/-- **A text is read as the value of the document that it spells.** -/
theorem readJson_spelled {document : Document} {text : String}
    (h : SpellsDocument document text.toList) (hreadable : IsReadable document.numbers) :
    readJson text = .ok document.value := by
  rw [readJson, readDocument_spelled h hreadable]

end Document

end DartLayers
