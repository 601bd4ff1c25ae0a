import DartLayers.Proofs.Json.Reading
import Mathlib.Data.List.TakeWhile

/-!
# DartLayers — what is read does not depend on what follows

A value that the reader has taken from the front of a text is taken from it in front of any other
rest, if that can stand behind a value. So a text may be cut behind a value, or prolonged there.

* **`readChars_local`** — the inside of a string literal.
* **`readNumber_local`** — a number.
* **`readValue_local`** — a value, with the items of an array and the members of an object.
-/

namespace DartLayers

open JsonReader

namespace Document

variable {text rest : List Char} {c : Char}

/-! ## Blanks -/

/-- Behind the blanks there is no blank. -/
theorem skipBlanks_split (text : List Char) : ∃ blanks, IsBlanks blanks ∧
    text = blanks ++ skipBlanks text ∧ ∀ c ∈ (skipBlanks text).head?, isBlank c = false := by
  refine ⟨text.takeWhile isBlank, fun c hc => ?_, (List.takeWhile_append_dropWhile).symm, fun c hc => ?_⟩
  · have hblank := List.mem_takeWhile_imp hc
    simpa [isBlank, or_assoc] using hblank
  · have hhead := List.head?_dropWhile_not isBlank text
    rw [← skipBlanks, hc] at hhead
    simpa using hhead

theorem skipBlanks_cons_eq : skipBlanks (c :: rest) = c :: rest ↔ isBlank c = false := by
  cases hblank : isBlank c with
  | false => simp [skipBlanks, hblank]
  | true =>
    simp only [skipBlanks, List.dropWhile_cons, hblank, if_true, iff_false, Bool.true_eq_false]
    intro h
    have hlength := (List.dropWhile_sublist isBlank (l := rest)).length_le
    rw [h, List.length_cons] at hlength
    omega

/-- What starts with no blank does so whatever is behind it. -/
theorem skipBlanks_taken {taken : List Char} (h : skipBlanks (taken ++ rest) = taken ++ rest)
    (hne : taken ≠ []) (other : List Char) : skipBlanks (taken ++ other) = taken ++ other := by
  obtain ⟨c, more, rfl⟩ := List.exists_cons_of_ne_nil hne
  rw [List.cons_append, skipBlanks_cons_eq] at h ⊢
  exact h

theorem skipBlanks_skipBlanks (text : List Char) :
    skipBlanks (skipBlanks text) = skipBlanks text := by
  obtain ⟨-, -, -, hhead⟩ := skipBlanks_split text
  cases hskip : skipBlanks text with
  | nil => rfl
  | cons c rest => exact skipBlanks_cons_eq.2 (hhead c (by rw [hskip]; rfl))

/-- Blanks in front of something that was taken are in front of it whatever follows. -/
theorem skipBlanks_cut (taken : List Char) (h : skipBlanks text = taken ++ rest) (hne : taken ≠ []) :
    ∃ blanks, text = blanks ++ taken ++ rest ∧
      ∀ other, skipBlanks (blanks ++ taken ++ other) = taken ++ other := by
  obtain ⟨c, more, rfl⟩ := List.exists_cons_of_ne_nil hne
  obtain ⟨blanks, hblanks, htext, hhead⟩ := skipBlanks_split text
  rw [h] at htext hhead
  refine ⟨blanks, by rw [List.append_assoc]; exact htext, fun other => ?_⟩
  rw [List.append_assoc]
  exact skipBlanks_append hblanks (hhead c rfl) _

/-! ## Texts -/

/-- The code unit behind another one, if the two are a pair. -/
def lowUnit? (high : Nat) : List Char → Option (Nat × List Char)
  | '\\' :: 'u' :: a :: b :: c :: d :: next :: rest =>
    if isHighUnit high then
      match unit? a b c d with
      | some low => if isLowUnit low then some (low, next :: rest) else none
      | none => none
    else none
  | _ => none

theorem readChars_noUnit (opening : Nat) {a b c d : Char} (hunit : unit? a b c d = none)
    (hrest : rest ≠ []) : readChars opening ('\\' :: 'u' :: a :: b :: c :: d :: rest) =
      failAt .unicodeEscape ('u' :: a :: b :: c :: d :: rest) := by
  obtain ⟨next, after, rfl⟩ := List.exists_cons_of_ne_nil hrest
  rw [readChars.eq_def]
  split <;> grind

/-- A code unit is read with the one behind it if they are a pair, and else alone. -/
theorem readChars_unit (opening : Nat) {a b c d : Char} {code : Nat} (hunit : unit? a b c d = some code)
    (hrest : rest ≠ []) :
    readChars opening ('\\' :: 'u' :: a :: b :: c :: d :: rest) =
      match lowUnit? code rest with
      | some (low, after) => consChar (pairedUnits code low) (readChars opening after)
      | none => consChar (loneUnit code) (readChars opening rest) := by
  fun_cases lowUnit? code rest with
  | case1 a b c d next rest hhigh low hlow hisLow => simp [readChars, hunit, hhigh, hlow, hisLow]
  | case2 a b c d next rest hhigh low hlow hisLow => simp [readChars, hunit, hhigh, hlow, hisLow]
  | case3 a b c d next rest hhigh hlow =>
    rw [readChars_noUnit opening hlow (by simp)]
    simp [readChars, hunit, hhigh, hlow, consChar, failAt]
  | case4 a b c d next rest hhigh => simp [readChars, hunit, hhigh]
  | case5 rest hnot =>
    obtain ⟨next, after, rfl⟩ := List.exists_cons_of_ne_nil hrest
    rw [readChars.eq_def]
    split <;> grind

/-- Behind the mark of a code unit there are its digits and something else. -/
theorem exists_digits_of_ok {opening : Nat} {result : List Char × List Char}
    (h : readChars opening ('\\' :: 'u' :: text) = .ok result) :
    ∃ a b c d next rest, text = a :: b :: c :: d :: next :: rest := by
  rcases text with _ | ⟨a, _ | ⟨b, _ | ⟨c, _ | ⟨d, _ | ⟨next, rest⟩⟩⟩⟩⟩
  case cons.cons.cons.cons.cons => exact ⟨a, b, c, d, next, rest, rfl⟩
  all_goals simp [readChars, failAt] at h

/-- The inside of a literal was taken from the front of a text, and is so in front of any rest. -/
def TakesChars (text chars rest : List Char) : Prop :=
  ∃ taken, taken ≠ [] ∧ text = taken ++ rest ∧
    ∀ opening other, readChars opening (taken ++ other) = .ok (chars, other)

/-- What was taken tells whether its first code unit is the second half of a pair. -/
theorem lowUnit?_cut {taken chars : List Char} {code : Nat}
    (htaken : ∀ opening other, readChars opening (taken ++ other) = .ok (chars, other))
    (hlone : lowUnit? code (taken ++ rest) = none) (other : List Char) :
    lowUnit? code (taken ++ other) = none := by
  have halone := htaken 0 []
  rw [List.append_nil] at halone
  rcases taken with _ | ⟨c, _ | ⟨d, more⟩⟩
  · simp [readChars] at halone
  · by_cases hc : c = '\\'
    · subst hc
      simp [readChars] at halone
    · simp [lowUnit?, hc]
  · by_cases hmark : c = '\\' ∧ d = 'u'
    · obtain ⟨rfl, rfl⟩ := hmark
      obtain ⟨e, f, g, h, next, behind, rfl⟩ := exists_digits_of_ok halone
      simp only [List.cons_append, lowUnit?] at hlone ⊢
      grind
    · simp only [List.cons_append]
      rw [lowUnit?]
      intro a b e f next behind heq
      simp only [List.cons.injEq] at heq
      exact hmark ⟨heq.1, heq.2.1⟩

/-- One character more in front of what was taken. -/
theorem TakesChars.cons {after chars : List Char} {c : Char} (h : TakesChars after chars rest)
    (front : List Char) (hread : ∀ taken, taken ≠ [] → after = taken ++ rest →
      (∀ opening other, readChars opening (taken ++ other) = .ok (chars, other)) →
        ∀ opening other, readChars opening (front ++ (taken ++ other)) =
          consChar c (readChars opening (taken ++ other))) :
    TakesChars (front ++ after) (c :: chars) rest := by
  obtain ⟨taken, hne, rfl, htaken⟩ := h
  refine ⟨front ++ taken, by simp [hne], by rw [List.append_assoc], fun opening other => ?_⟩
  rw [List.append_assoc, hread taken hne rfl htaken, htaken, consChar]

theorem exists_of_consChar {c : Char} {result : Result (List Char)} {chars : List Char}
    (h : consChar c result = .ok (chars, rest)) :
    ∃ more, chars = c :: more ∧ result = .ok (more, rest) := by
  unfold consChar at h
  split at h
  · cases h
    exact ⟨_, rfl, rfl⟩
  · cases h

/-- A fault inside a literal is never that a value is missing. -/
theorem readChars_error {opening : Nat} {trouble : JsonTrouble}
    (h : readChars opening text = .error trouble) :
    ∃ kind left, kind ≠ .value ∧ trouble = .malformed kind left := by
  have of_consChar {c : Char} {result : Result (List Char)} (h : consChar c result = .error trouble) :
      result = .error trouble := by
    unfold consChar at h
    split at h
    · cases h
    · exact h
  fun_induction readChars opening text with
  | case2 => cases h
  | case5 _ _ _ _ _ _ _ _ _ _ _ _ _ _ _ _ ih | case6 _ _ _ _ _ _ _ _ _ _ _ _ _ _ _ _ ih
  | case7 _ _ _ _ _ _ _ _ _ _ _ _ _ ih | case9 _ _ _ _ _ _ _ _ _ ih | case12 _ _ _ _ _ _ _ ih
  | case15 _ _ _ _ _ _ _ _ _ ih => exact ih (of_consChar h)
  | case1 | case3 | case4 | case8 | case10 | case11 | case13 | case14 =>
    cases h
    exact ⟨_, _, by decide, rfl⟩

/-- A code unit alone, in front of what was taken. -/
theorem TakesChars.lone {a b c d : Char} {code : Nat} {chars : List Char}
    (hunit : unit? a b c d = some code) (hlone : lowUnit? code text = none)
    (h : TakesChars text chars rest) :
    TakesChars ('\\' :: 'u' :: a :: b :: c :: d :: text) (loneUnit code :: chars) rest :=
  h.cons ['\\', 'u', a, b, c, d] fun taken hne heq htaken opening other => by
    subst heq
    simp only [List.cons_append, List.nil_append]
    rw [readChars_unit opening hunit (by simp [hne]), lowUnit?_cut htaken hlone other]

/-- Two code units, in front of what was taken. -/
theorem TakesChars.pair {a b c d : Char} {high low : Nat} {after chars : List Char}
    (hunit : unit? a b c d = some high) (hpair : lowUnit? high text = some (low, after))
    (h : TakesChars after chars rest) :
    TakesChars ('\\' :: 'u' :: a :: b :: c :: d :: text) (pairedUnits high low :: chars) rest := by
  revert hpair
  fun_cases lowUnit? high text with
  | case1 e f g i next behind hhigh found hfound hlow =>
    rintro ⟨rfl, rfl⟩
    refine h.cons ['\\', 'u', a, b, c, d, '\\', 'u', e, f, g, i] fun taken hne _ _ opening other => ?_
    obtain ⟨first, more, rfl⟩ := List.exists_cons_of_ne_nil hne
    simp [readChars, hunit, hfound, hhigh, hlow]
  | case2 | case3 | case4 | case5 => simp

/-- **The inside of a string literal** is read in front of any rest. -/
theorem readChars_local {opening : Nat} {chars : List Char}
    (h : readChars opening text = .ok (chars, rest)) : TakesChars text chars rest := by
  -- The cases are those of the reader; an escaped unit is paired, or alone as the one behind it
  -- does not fit.
  fun_induction readChars opening text generalizing chars with
  | case2 behind =>
    cases h
    exact ⟨['"'], by simp, rfl, fun _ _ => rfl⟩
  | case5 a b c d e f g i next behind high hunit hhigh low hpair hlow ih =>
    obtain ⟨more, rfl, hmore⟩ := exists_of_consChar h
    exact (ih hmore).pair hunit (by simp [lowUnit?, hhigh, hpair, hlow])
  | case6 a b c d e f g i next behind high hunit hhigh low hpair hlow ih =>
    obtain ⟨more, rfl, hmore⟩ := exists_of_consChar h
    exact (ih hmore).lone hunit (by simp [lowUnit?, hhigh, hpair, hlow])
  | case7 a b c d e f g i next behind high hunit hhigh ih =>
    obtain ⟨more, rfl, hmore⟩ := exists_of_consChar h
    exact (ih hmore).lone hunit (by simp [lowUnit?, hhigh])
  | case9 a b c d next behind hnot code hunit ih =>
    obtain ⟨more, rfl, hmore⟩ := exists_of_consChar h
    refine (ih hmore).lone hunit ?_
    rw [lowUnit?]
    intro e f g i after others heq
    cases heq
    exact hnot _ _ _ _ _ _ rfl rfl
  | case12 c behind _ _ hnotUnit char hescaped ih =>
    obtain ⟨more, rfl, hmore⟩ := exists_of_consChar h
    have hmark : c ≠ 'u' := hnotUnit
    refine (ih hmore).cons ['\\', c] fun taken _ _ _ opening other => ?_
    simp [readChars, hmark, hescaped]
  | case15 c behind hquote _ _ _ hend hescape hcontrol ih =>
    obtain ⟨more, rfl, hmore⟩ := exists_of_consChar h
    have hbackslash : c ≠ '\\' := by
      rintro rfl
      cases behind with
      | nil => exact hend rfl rfl
      | cons d others => exact hescape _ _ rfl rfl
    refine (ih hmore).cons [c] fun taken _ _ _ opening other => ?_
    simp [readChars, hbackslash, hcontrol]
  | case1 | case3 | case4 | case8 | case10 | case11 | case13 | case14 => cases h

/-! ## Numbers -/

theorem isDigits_takeWhile (h : text.takeWhile Char.isDigit ≠ []) :
    IsDigits (text.takeWhile Char.isDigit) :=
  ⟨h, fun _ hc => List.mem_takeWhile_imp hc⟩

theorem takeWhole_split {whole : List Char} (h : takeWhole text = some (whole, rest)) :
    IsWholePart whole ∧ text = whole ++ rest ∧ (whole ≠ ['0'] → EndsDigits rest) := by
  revert h
  fun_cases takeWhole text with
  | case1 others =>
    rintro ⟨rfl, rfl⟩
    exact ⟨by decide, rfl, by simp⟩
  | case2 c others hzero hdigit =>
    rintro ⟨rfl, rfl⟩
    refine ⟨⟨⟨by simp, ?_⟩, fun hhead => ?_⟩, by simp, fun _ => ?_⟩
    · intro d hd
      rcases List.mem_cons.1 hd with rfl | hd
      · exact hdigit
      · exact List.mem_takeWhile_imp hd
    · exact absurd (by simpa using hhead) hzero
    · intro d hd
      have hhead := List.head?_dropWhile_not Char.isDigit others
      rw [hd] at hhead
      simpa using hhead
  | case3 | case4 => simp

theorem takeFraction_split {fraction : Option (List Char)}
    (h : takeFraction text = (fraction, rest)) :
    ∃ spelled, SpellsFraction fraction spelled ∧ text = spelled ++ rest := by
  revert h
  fun_cases takeFraction text with
  | case1 digits hnone =>
    rintro ⟨rfl, rfl⟩
    exact ⟨[], .absent, rfl⟩
  | case2 digits hsome =>
    rintro ⟨rfl, rfl⟩
    exact ⟨_, .present (isDigits_takeWhile hsome), by simp⟩
  | case3 hpoint =>
    rintro ⟨rfl, rfl⟩
    exact ⟨[], .absent, rfl⟩

/-- A sign in front of digits is a minus, a plus or nothing. -/
theorem takeSign_split {negative : Bool} {unsigned : List Char}
    (h : Text.takeSign text = (negative, unsigned)) :
    text = '-' :: unsigned ∧ negative = true ∨ text = '+' :: unsigned ∧ negative = false ∨
      text = unsigned ∧ negative = false := by
  revert h
  fun_cases Text.takeSign text with
  | case1 | case2 | case3 =>
    rintro ⟨rfl, rfl⟩
    simp

theorem takeExponent_split {exponent : Option (Bool × List Char)}
    (h : takeExponent text = (exponent, rest)) :
    ∃ spelled, SpellsExponent exponent spelled ∧ text = spelled ++ rest := by
  revert h
  fun_cases takeExponent text with
  | case2 c behind hletter negative unsigned hsign hsome =>
    rintro ⟨rfl, rfl⟩
    have hmark : c = 'e' ∨ c = 'E' := by simpa using hletter
    have hdigits := isDigits_takeWhile hsome
    obtain ⟨rfl, rfl⟩ | ⟨rfl, rfl⟩ | ⟨rfl, rfl⟩ := takeSign_split hsign
    · exact ⟨_, .minus hmark hdigits, by simp⟩
    · exact ⟨_, .plus hmark hdigits, by simp⟩
    · exact ⟨_, .unsigned hmark hdigits, by simp⟩
  | case1 | case3 | case4 =>
    rintro ⟨rfl, rfl⟩
    exact ⟨[], .absent, rfl⟩

theorem takeNumber_split {literal : NumberLiteral} (h : takeNumber text = some (literal, rest)) :
    ∃ spelled, SpellsNumber literal spelled ∧ text = spelled ++ rest := by
  revert h
  fun_cases takeNumber text with
  | case1 => simp
  | case2 negative unsigned hsign whole afterWhole hwhole fraction afterFraction hfraction exponent
      others hexponent =>
    rintro ⟨rfl, rfl⟩
    obtain ⟨hpart, rfl, -⟩ := takeWhole_split hwhole
    obtain ⟨fractionText, hfractionText, rfl⟩ := takeFraction_split hfraction
    obtain ⟨exponentText, hexponentText, rfl⟩ := takeExponent_split hexponent
    refine ⟨_, ⟨hpart, hfractionText, hexponentText⟩, ?_⟩
    split at hsign <;> (obtain ⟨rfl, rfl⟩ := hsign; simp)

/-- **A number** is read in front of what ends it. -/
theorem readNumber_local {json : Json} (h : readNumber text = .ok (json, rest)) :
    ∃ taken, taken ≠ [] ∧ text = taken ++ rest ∧
      ∀ bound other, EndsNumber other →
        readValue (bound + 1) (taken ++ other) = .ok (json, other) := by
  unfold readNumber at h
  split at h
  · cases h
  · rename_i literal behind htake
    obtain ⟨spelled, hspelled, rfl⟩ := takeNumber_split htake
    obtain ⟨c, others, hne, -⟩ := head_of_spellsNumber hspelled
    cases hvalue : literal.value with
    | error trouble =>
      rw [hvalue] at h
      cases h
    | ok found =>
      rw [hvalue] at h
      obtain ⟨rfl, rfl⟩ := h
      refine ⟨spelled, by simp [hne], rfl, fun bound other hother => ?_⟩
      rw [readValue_number bound hspelled, readNumber, takeNumber_spelled hspelled hother]
      simp only [hvalue]
      rfl

/-! ## Values

A bracket, a comma and a colon are met behind blanks, and the next value or key is read behind blanks
again. So an array or an object is put together from pieces that were taken one after the other. -/

/-- A reader took a value from the front of a text, and takes it in front of any rest that may stand
there. -/
def Takes {α : Type} (read : (bound : Nat) → List Char → Result α) (mayFollow : List Char → Prop)
    (text : List Char) (value : α) (rest : List Char) : Prop :=
  ∃ taken, taken ≠ [] ∧ text = taken ++ rest ∧ ∀ bound other, taken.length ≤ bound →
    mayFollow other → read bound (taken ++ other) = .ok (value, other)

/-- What the three readers take with a bound does not depend on what follows. Behind an array or an
object without its opening bracket anything may follow. -/
structure IsLocal (bound : Nat) : Prop where
  value {text rest : List Char} {json : Json} (h : readValue bound text = .ok (json, rest)) :
    Takes readValue IsDelimited text json rest
  items {text rest : List Char} {items : List Json} (h : readItems bound text = .ok (items, rest)) :
    Takes readItems (fun _ => True) text items rest
  members {text rest : List Char} {before members : List (String × Json)}
    (h : readMembers bound text before = .ok (members, rest)) :
    Takes (fun bound text => readMembers bound text before) (fun _ => True) text members rest

theorem readValue_array (bound : Nat) (h : (skipBlanks rest).head? ≠ some ']') :
    readValue (bound + 1) ('[' :: rest) =
      (readItems bound (skipBlanks rest)).map fun found => (.array found.1, found.2) := by
  rw [readValue]
  split
  · simp_all
  · rfl

theorem readValue_object (bound : Nat) (h : (skipBlanks rest).head? ≠ some '\x7d') :
    readValue (bound + 1) ('\x7b' :: rest) =
      (readMembers bound (skipBlanks rest) []).map fun found => (.object found.1, found.2) := by
  rw [readValue]
  split
  · simp_all
  · rfl

theorem exists_of_map {α β : Type} {build : α × List Char → β × List Char} {result : Result α}
    {built : β × List Char} (h : result.map build = .ok built) :
    ∃ found after, result = .ok (found, after) ∧ build (found, after) = built := by
  rcases result with _ | ⟨found, after⟩
  · cases h
  · cases h
    exact ⟨found, after, rfl, rfl⟩

theorem head?_ne (h : ∀ behind, text = c :: behind → False) : text.head? ≠ some c := by
  rcases text with _ | ⟨d, behind⟩
  · simp
  · rintro ⟨⟩
    exact h behind rfl

/-- A mark behind blanks stands behind a value. -/
theorem isDelimited_of_skipBlanks (h : skipBlanks text = c :: rest)
    (hmark : c = ',' ∨ c = ']' ∨ c = '\x7d') : IsDelimited text := by
  obtain ⟨blanks, hblanks, htext, -⟩ := skipBlanks_split text
  rw [htext, h]
  exact isDelimited_append hblanks (isDelimited_cons hmark rest)

/-- A mark behind blanks, with the blanks behind it and what was taken there. -/
theorem skipBlanks_mark {next taken : List Char} (hmark : skipBlanks text = c :: next)
    (hnext : skipBlanks next = taken ++ rest) (hne : taken ≠ []) :
    ∃ before between, text = before ++ c :: (between ++ taken) ++ rest ∧ ∀ other,
      skipBlanks (before ++ c :: (between ++ taken) ++ other) = c :: (between ++ taken ++ other) ∧
        skipBlanks (between ++ taken ++ other) = taken ++ other := by
  obtain ⟨before, rfl, hbefore⟩ := skipBlanks_cut [c] hmark (by simp)
  obtain ⟨between, rfl, hbetween⟩ := skipBlanks_cut _ hnext hne
  refine ⟨before, between, by simp, fun other => ⟨?_, hbetween other⟩⟩
  simpa using hbefore (between ++ taken ++ other)

/-- The piece that a reader took behind an opening bracket, with the bracket. -/
theorem Takes.bracket {α : Type} {read : (bound : Nat) → List Char → Result α} {value : α}
    {build : α → Json} {opening close : Char} (h : Takes read (fun _ => True) (skipBlanks text) value rest)
    (hopen : (skipBlanks text).head? ≠ some close)
    (hread : ∀ bound behind, (skipBlanks behind).head? ≠ some close →
      readValue (bound + 1) (opening :: behind) =
        (read bound (skipBlanks behind)).map fun found => (build found.1, found.2)) :
    Takes readValue IsDelimited (opening :: text) (build value) rest := by
  obtain ⟨taken, hne, htext, htaken⟩ := h
  obtain ⟨blanks, rfl, hskip⟩ := skipBlanks_cut _ htext hne
  refine ⟨opening :: (blanks ++ taken), by simp, by simp, fun bound other hbound _ => ?_⟩
  obtain ⟨less, rfl⟩ : ∃ less, bound = less + 1 := ⟨bound - 1, by simp at hbound; omega⟩
  obtain ⟨first, more, rfl⟩ := List.exists_cons_of_ne_nil hne
  rw [htext] at hopen
  rw [List.cons_append, hread less _ (by rw [hskip]; simpa using hopen), hskip,
    htaken less other (by simp at hbound ⊢; omega) trivial]
  rfl

/-- What is read with any bound but zero. -/
theorem takes_of_succ (spelled : List Char) {json : Json} (hne : spelled ≠ [])
    (hread : ∀ bound other, IsDelimited other →
      readValue (bound + 1) (spelled ++ other) = .ok (json, other)) :
    Takes readValue IsDelimited (spelled ++ rest) json rest := by
  refine ⟨spelled, hne, rfl, fun bound other hbound hother => ?_⟩
  have hlength := List.length_pos_iff.2 hne
  obtain ⟨less, rfl⟩ : ∃ less, bound = less + 1 := ⟨bound - 1, by omega⟩
  exact hread less other hother

theorem IsLocal.value_succ {bound : Nat} (hlocal : IsLocal bound) {json : Json}
    (h : readValue (bound + 1) text = .ok (json, rest)) :
    Takes readValue IsDelimited text json rest := by
  rw [readValue.eq_def] at h
  dsimp only at h
  -- One case for each way in which a value can start; the recursive ones use the bound below.
  split at h
  case h_1 behind =>
    obtain ⟨chars, after, hchars, ⟨⟩⟩ := exists_of_map h
    obtain ⟨taken, -, rfl, htaken⟩ := readChars_local hchars
    refine takes_of_succ ('"' :: taken) (by simp) fun bound other _ => ?_
    rw [List.cons_append, readValue, htaken]
    rfl
  case h_2 behind =>
    split at h
    case h_1 after hclose =>
      cases h
      obtain ⟨blanks, rfl, hskip⟩ := skipBlanks_cut ['\x7d'] hclose (by simp)
      refine takes_of_succ ('\x7b' :: (blanks ++ ['\x7d'])) (by simp) fun bound other _ => ?_
      rw [List.cons_append, readValue, hskip]
      rfl
    case h_2 first hopen =>
      obtain ⟨members, after, hmembers, ⟨⟩⟩ := exists_of_map h
      exact (hlocal.members hmembers).bracket (head?_ne hopen) fun bound _ => readValue_object bound
  case h_3 behind =>
    split at h
    case h_1 after hclose =>
      cases h
      obtain ⟨blanks, rfl, hskip⟩ := skipBlanks_cut [']'] hclose (by simp)
      refine takes_of_succ ('[' :: (blanks ++ [']'])) (by simp) fun bound other _ => ?_
      rw [List.cons_append, readValue, hskip]
      rfl
    case h_2 first hopen =>
      obtain ⟨items, after, hitems, ⟨⟩⟩ := exists_of_map h
      exact (hlocal.items hitems).bracket (head?_ne hopen) fun bound _ => readValue_array bound
  case h_4 =>
    cases h
    exact takes_of_succ ['n', 'u', 'l', 'l'] (by simp) fun _ _ _ => rfl
  case h_5 =>
    cases h
    exact takes_of_succ ['t', 'r', 'u', 'e'] (by simp) fun _ _ _ => rfl
  case h_6 =>
    cases h
    exact takes_of_succ ['f', 'a', 'l', 's', 'e'] (by simp) fun _ _ _ => rfl
  case h_7 =>
    cases h
    exact takes_of_succ ['N', 'a', 'N'] (by simp) fun _ _ _ => rfl
  case h_8 =>
    cases h
    exact takes_of_succ ['I', 'n', 'f', 'i', 'n', 'i', 't', 'y'] (by simp) fun _ _ _ => rfl
  case h_9 =>
    cases h
    exact takes_of_succ ['-', 'I', 'n', 'f', 'i', 'n', 'i', 't', 'y'] (by simp) fun _ _ _ => rfl
  case h_10 =>
    obtain ⟨taken, hne, rfl, htaken⟩ := readNumber_local h
    exact takes_of_succ _ hne fun bound other hother => htaken bound other hother.endsNumber

theorem IsLocal.items_succ {bound : Nat} (hlocal : IsLocal bound) {items : List Json}
    (h : readItems (bound + 1) text = .ok (items, rest)) :
    Takes readItems (fun _ => True) text items rest := by
  rw [readItems] at h
  -- The item is local by the bound below; then a bracket ends the array, or a comma goes on with
  -- it.
  split at h
  · cases h
  · rename_i item afterItem hitem
    obtain ⟨itemText, hitemText, rfl, hread⟩ := hlocal.value hitem
    split at h
    case h_1 after hclose =>
      cases h
      obtain ⟨blanks, rfl, hskip⟩ := skipBlanks_cut [']'] hclose (by simp)
      refine ⟨itemText ++ (blanks ++ [']']), by simp, by simp, fun bound other hbound _ => ?_⟩
      simp only [List.length_append, List.length_singleton] at hbound
      obtain ⟨less, rfl⟩ : ∃ less, bound = less + 1 := ⟨bound - 1, by omega⟩
      have hmark := hskip other
      rw [List.append_assoc, readItems, hread less _ (by omega)
        (isDelimited_of_skipBlanks hmark (by simp))]
      simp only [hmark]
      rfl
    case h_2 next hcomma =>
      obtain ⟨others, after, hothers, ⟨⟩⟩ := exists_of_map h
      obtain ⟨othersText, hne, hnext, hreadOthers⟩ := hlocal.items hothers
      obtain ⟨before, between, rfl, hskip⟩ := skipBlanks_mark hcomma hnext hne
      refine ⟨itemText ++ (before ++ ',' :: (between ++ othersText)), by simp, by simp,
        fun bound other hbound _ => ?_⟩
      simp only [List.length_append, List.length_cons] at hbound
      obtain ⟨less, rfl⟩ : ∃ less, bound = less + 1 := ⟨bound - 1, by omega⟩
      obtain ⟨hmark, hbetween⟩ := hskip other
      rw [List.append_assoc, readItems, hread less _ (by omega)
        (isDelimited_of_skipBlanks hmark (by simp))]
      simp only [hmark, hbetween, hreadOthers less other (by omega) trivial]
      rfl
    case h_3 => cases h

/-- How reading the members goes on with the value behind a key. -/
def withMember (bound : Nat) (key : String) (before : List (String × Json)) :
    Result Json → Result (List (String × Json))
  | .error trouble => .error trouble
  | .ok (value, behind) => afterMember bound (insertMember key value before) (skipBlanks behind)

/-- A member either has no key and colon, or its value is what is read behind them, whatever the text
goes on with there. -/
theorem readMembers_cases (text : List Char) :
    (∀ bound before, ∃ kind left, kind ≠ .value ∧
      readMembers (bound + 1) text before = .error (.malformed kind left)) ∨
    ∃ key front value, front ≠ [] ∧ text = front ++ value ∧ skipBlanks value = value ∧
      ∀ bound before other, skipBlanks other = other →
        readMembers (bound + 1) (front ++ other) before =
          withMember bound key before (readValue bound other) := by
  by_cases hquote : ∃ behind, text = '"' :: behind
  case neg =>
    refine .inl fun bound before => ⟨.propertyName, text.length, by decide, ?_⟩
    rw [readMembers]
    · rfl
    · exact fun behind hbehind => hquote ⟨behind, hbehind⟩
  obtain ⟨behind, rfl⟩ := hquote
  -- The key and the colon are found or missed within the text, and nothing behind the colon is
  -- looked at.
  cases hkey : readChars ('"' :: behind).length behind with
  | error trouble =>
    obtain ⟨kind, left, hkind, rfl⟩ := readChars_error hkey
    refine .inl fun bound before => ⟨kind, left, hkind, ?_⟩
    rw [readMembers, hkey]
  | ok found =>
    obtain ⟨key, afterKey⟩ := found
    obtain ⟨keyText, -, rfl, hreadKey⟩ := readChars_local hkey
    by_cases hcolon : ∃ beforeValue, skipBlanks afterKey = ':' :: beforeValue
    case neg =>
      refine .inl fun bound before => ⟨.colon, (skipBlanks afterKey).length, by decide, ?_⟩
      rw [readMembers, hkey]
      dsimp only
      split
      · exact absurd ⟨_, ‹_›⟩ hcolon
      · rfl
    obtain ⟨beforeValue, hcolon⟩ := hcolon
    obtain ⟨blanks, rfl, hskip⟩ := skipBlanks_cut [':'] hcolon (by simp)
    obtain ⟨between, hbetween, hvalue, -⟩ := skipBlanks_split beforeValue
    refine .inr ⟨String.ofList key, '"' :: (keyText ++ (blanks ++ ':' :: between)),
      skipBlanks beforeValue, by simp, ?_, skipBlanks_skipBlanks _,
      fun bound before other hother => ?_⟩
    · simpa using hvalue
    · have hmark : skipBlanks (blanks ++ ':' :: (between ++ other)) = ':' :: (between ++ other) := by
        simpa using hskip (between ++ other)
      have hvalue : skipBlanks (between ++ other) = other := by
        rw [skipBlanks, List.dropWhile_append_of_pos hbetween.isBlank]
        exact hother
      simp only [List.cons_append, List.append_assoc]
      rw [readMembers, hreadKey]
      simp only [hmark, hvalue]
      rfl

theorem IsLocal.members_succ {bound : Nat} (hlocal : IsLocal bound)
    {before members : List (String × Json)}
    (h : readMembers (bound + 1) text before = .ok (members, rest)) :
    Takes (fun bound text => readMembers bound text before) (fun _ => True) text members rest := by
  obtain hfault | ⟨key, front, value, -, rfl, hvalue, hread⟩ := readMembers_cases text
  · -- Without a key and its colon there is no member, whatever follows.
    obtain ⟨kind, left, -, hfault⟩ := hfault bound before
    rw [hfault] at h
    cases h
  rw [hread _ _ _ hvalue] at h
  cases hjson : readValue bound value with
  | error trouble =>
    rw [hjson] at h
    cases h
  | ok found =>
    obtain ⟨json, behind⟩ := found
    obtain ⟨valueText, hne, rfl, hreadValue⟩ := hlocal.value hjson
    -- With its value the member is read as far as the mark behind it.
    have hmember {bound : Nat} {behind next : List Char} {c : Char}
        (hbound : valueText.length ≤ bound) (hmark : skipBlanks behind = c :: next)
        (hc : c = ',' ∨ c = ']' ∨ c = '\x7d') :
        readMembers (bound + 1) (front ++ (valueText ++ behind)) before =
          afterMember bound (insertMember key json before) (c :: next) := by
      rw [hread _ _ _ (skipBlanks_taken hvalue hne behind),
        hreadValue bound behind hbound (isDelimited_of_skipBlanks hmark hc), withMember, hmark]
    simp only [hjson, withMember] at h
    unfold afterMember at h
    split at h
    -- A closing brace ends the object; after a comma the other members are local by the bound
    -- below.
    case h_1 after hclose =>
      cases h
      obtain ⟨blanks, rfl, hskip⟩ := skipBlanks_cut ['\x7d'] hclose (by simp)
      refine ⟨front ++ (valueText ++ (blanks ++ ['\x7d'])), by simp, by simp,
        fun bound other hbound _ => ?_⟩
      simp only [List.length_append, List.length_singleton] at hbound
      obtain ⟨less, rfl⟩ : ∃ less, bound = less + 1 := ⟨bound - 1, by omega⟩
      have hmark : skipBlanks (blanks ++ ['\x7d'] ++ other) = '\x7d' :: other := hskip other
      have hend := @hmember less _ _ _ (by omega) hmark (by simp)
      rw [afterMember] at hend
      simpa only [List.append_assoc] using hend
    case h_2 next hcomma =>
      obtain ⟨othersText, hothersNe, hnext, hreadOthers⟩ := hlocal.members h
      obtain ⟨behindValue, between, rfl, hskip⟩ := skipBlanks_mark hcomma hnext hothersNe
      refine ⟨front ++ (valueText ++ (behindValue ++ ',' :: (between ++ othersText))), by simp,
        by simp, fun bound other hbound _ => ?_⟩
      simp only [List.length_append, List.length_cons] at hbound
      obtain ⟨less, rfl⟩ : ∃ less, bound = less + 1 := ⟨bound - 1, by omega⟩
      obtain ⟨hmark, hbetween⟩ := hskip other
      have hgoesOn := @hmember less _ _ _ (by omega) hmark (by simp)
      rw [afterMember, hbetween] at hgoesOn
      have hothers := hreadOthers less other (by omega) trivial
      dsimp only at hothers
      rw [hothers] at hgoesOn
      simpa only [List.append_assoc] using hgoesOn
    case h_3 => cases h

/-- **What is read does not depend on what follows.** -/
theorem isLocal (bound : Nat) : IsLocal bound := by
  induction bound with
  | zero => refine ⟨fun h => ?_, fun h => ?_, fun h => ?_⟩ <;> cases h
  | succ bound ih => exact ⟨ih.value_succ, ih.items_succ, ih.members_succ⟩

end Document

end DartLayers
