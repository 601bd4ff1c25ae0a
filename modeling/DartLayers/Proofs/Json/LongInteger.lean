import DartLayers.Proofs.Json.Locality

/-!
# DartLayers — whole numbers with too many digits

The reader refuses a whole number of more than `Text.maxIntegerDigits` digits with a fault that is not
a malformed text. It meets such a number only where it goes for a value, so the texts with that fault
are known by what stands in front of the number: a text that is malformed for the one reason that
nothing follows where a value is expected.

* **`HoldsLongInteger`** — a text with such a number where a value is expected.
* **`readDocument_longInteger_iff`** — those are the texts that are refused so.
-/

namespace DartLayers

open JsonReader

namespace Document

variable {text rest place : List Char} {trouble : JsonTrouble} {digits : Nat} {c : Char}

/-! ## Numbers -/

/-- What a number goes on with: a digit, a fraction or an exponent. -/
def ContinuesNumber (rest : List Char) : Prop :=
  ∃ piece behind, rest = piece ++ behind ∧ (IsDigits piece ∨
    (∃ digits, SpellsFraction (some digits) piece) ∨
    ∃ exponent, SpellsExponent (some exponent) piece)

/-- A text starts with a whole number that has too many digits. -/
inductive StartsLongInteger : (digits : Nat) → List Char → Prop
  | mk {negative : Bool} {whole rest : List Char} (hwhole : IsWholePart whole)
      (hlong : Text.maxIntegerDigits < whole.length) (hend : ¬ ContinuesNumber rest) :
      StartsLongInteger whole.length ((if negative then ['-'] else []) ++ (whole ++ rest))

theorem takeWhile_isDigits {piece : List Char} (h : IsDigits piece) (behind : List Char) :
    (piece ++ behind).takeWhile Char.isDigit ≠ [] := by
  obtain ⟨first, others, rfl⟩ := List.exists_cons_of_ne_nil h.1
  simp [h.2 first List.mem_cons_self]

theorem takeFraction_isSome {piece fraction : List Char}
    (h : SpellsFraction (some fraction) piece) (behind : List Char) :
    (takeFraction (piece ++ behind)).1 ≠ none := by
  cases h with
  | present h =>
    rw [List.cons_append, takeFraction]
    split
    · exact absurd ‹_› (takeWhile_isDigits h behind)
    · simp

theorem takeExponent_isSome {piece : List Char} {exponent : Bool × List Char}
    (h : SpellsExponent (some exponent) piece) (behind : List Char) :
    (takeExponent (piece ++ behind)).1 ≠ none := by
  have of_sign {letter : Char} {negative : Bool} {signed run : List Char}
      (hletter : letter = 'e' ∨ letter = 'E') (hrun : IsDigits run)
      (hsign : Text.takeSign signed = (negative, run ++ behind)) :
      (takeExponent (letter :: signed)).1 ≠ none := by
    have hmark : (letter == 'e' || letter == 'E') = true := by simpa using hletter
    simp only [takeExponent, hmark, hsign, if_true]
    split
    · exact absurd ‹_› (takeWhile_isDigits hrun behind)
    · simp
  cases h with
  | unsigned hletter h => exact of_sign hletter h (takeSign_digits h behind)
  | plus hletter h => exact of_sign hletter h rfl
  | minus hletter h => exact of_sign hletter h rfl

/-- Nothing is taken from what does not continue a number. -/
theorem take_of_not_continuesNumber (h : ¬ ContinuesNumber rest) :
    EndsDigits rest ∧ takeFraction rest = (none, rest) ∧ takeExponent rest = (none, rest) := by
  refine ⟨fun c hc => ?_, ?_, ?_⟩
  · obtain ⟨others, rfl⟩ : ∃ others, rest = c :: others := by
      cases rest with
      | nil => cases hc
      | cons d others =>
        cases hc
        exact ⟨others, rfl⟩
    by_contra hdigit
    exact h ⟨[c], others, rfl, .inl ⟨by simp, by simpa using hdigit⟩⟩
  · rcases htake : takeFraction rest with ⟨_ | fraction, behind⟩
    · obtain ⟨spelled, ⟨⟩, rfl⟩ := takeFraction_split htake
      rfl
    · obtain ⟨spelled, hspelled, htext⟩ := takeFraction_split htake
      exact absurd ⟨spelled, behind, htext, .inr (.inl ⟨fraction, hspelled⟩)⟩ h
  · rcases htake : takeExponent rest with ⟨_ | exponent, behind⟩
    · obtain ⟨spelled, ⟨⟩, rfl⟩ := takeExponent_split htake
      rfl
    · obtain ⟨spelled, hspelled, htext⟩ := takeExponent_split htake
      exact absurd ⟨spelled, behind, htext, .inr (.inr ⟨exponent, hspelled⟩)⟩ h

/-- What stands behind a number does not continue it. -/
theorem EndsNumber.not_continuesNumber (h : EndsNumber rest) : ¬ ContinuesNumber rest := by
  rintro ⟨piece, behind, rfl, hdigits | ⟨digits, ⟨⟩⟩ | ⟨exponent, hexponent⟩⟩
  · obtain ⟨c, others, rfl⟩ := List.exists_cons_of_ne_nil hdigits.1
    have hdigit := hdigits.2 c List.mem_cons_self
    rw [(h c rfl).1] at hdigit
    cases hdigit
  · exact (h '.' rfl).2.1 rfl
  · cases hexponent with
    | unsigned hletter | plus hletter | minus hletter =>
      obtain ⟨-, -, hlower, hupper⟩ := h _ rfl
      exact hletter.elim hlower hupper

/-- A whole number was taken as far as it goes. -/
theorem takeNumber_whole {negative : Bool} {whole : List Char}
    (h : takeNumber text = some (⟨negative, whole, none, none⟩, rest)) :
    IsWholePart whole ∧ text = (if negative then ['-'] else []) ++ (whole ++ rest) ∧
      (whole ≠ ['0'] → ¬ ContinuesNumber rest) := by
  revert h
  fun_cases takeNumber text with
  | case1 => simp
  | case2 sign unsigned hsign whole afterWhole hwhole fraction afterFraction hfraction exponent
      others hexponent =>
    rintro ⟨rfl, rfl⟩
    obtain ⟨hpart, rfl, hends⟩ := takeWhole_split hwhole
    obtain ⟨-, ⟨⟩, rfl⟩ := takeFraction_split hfraction
    obtain ⟨-, ⟨⟩, rfl⟩ := takeExponent_split hexponent
    refine ⟨hpart, ?_, fun hzero => ?_⟩
    · split at hsign <;> (obtain ⟨rfl, rfl⟩ := hsign; rfl)
    · rintro ⟨piece, behind, rfl, hdigits | ⟨digits, hspelled⟩ | ⟨exponent, hspelled⟩⟩
      · obtain ⟨c, others, rfl⟩ := List.exists_cons_of_ne_nil hdigits.1
        have hdigit := hdigits.2 c List.mem_cons_self
        rw [hends hzero c rfl] at hdigit
        cases hdigit
      · exact takeFraction_isSome hspelled behind (congrArg Prod.fst hfraction)
      · exact takeExponent_isSome hspelled behind (congrArg Prod.fst hexponent)

/-- Only a whole number has no value, for its length. -/
theorem value_eq_error {literal : NumberLiteral} (h : literal.value = .error trouble) :
    ∃ negative whole, literal = ⟨negative, whole, none, none⟩ ∧
      Text.maxIntegerDigits < whole.length ∧ trouble = .longInteger whole.length := by
  obtain ⟨negative, whole, _ | fraction, _ | exponent⟩ := literal
  · unfold NumberLiteral.value at h
    dsimp only at h
    split at h
    · cases h
      exact ⟨negative, whole, rfl, ‹_›, rfl⟩
    · cases h
  all_goals cases h

/-- A number is refused where none starts, or because it is whole and has too many digits. -/
theorem readNumber_error (h : readNumber text = .error trouble) :
    trouble = .malformed .value text.length ∨
      ∃ digits, trouble = .longInteger digits ∧ StartsLongInteger digits text := by
  unfold readNumber at h
  split at h
  · cases h
    exact .inl rfl
  · rename_i literal behind htake
    cases hvalue : literal.value with
    | ok json =>
      rw [hvalue] at h
      cases h
    | error trouble =>
      rw [hvalue] at h
      cases h
      obtain ⟨negative, whole, rfl, hlong, rfl⟩ := value_eq_error hvalue
      obtain ⟨hpart, rfl, hends⟩ := takeNumber_whole htake
      refine .inr ⟨_, rfl, hpart, hlong, hends ?_⟩
      rintro rfl
      exact absurd hlong (by decide)

/-- **A number is refused for its length** if it is whole and has too many digits. -/
theorem readNumber_longInteger_iff :
    readNumber text = .error (.longInteger digits) ↔ StartsLongInteger digits text := by
  constructor
  · intro h
    obtain ⟨⟨⟩⟩ | ⟨found, ⟨⟩, hstarts⟩ := readNumber_error h
    exact hstarts
  · rintro @⟨negative, whole, rest, hwhole, hlong, hend⟩
    obtain ⟨hdigits, hfraction, hexponent⟩ := take_of_not_continuesNumber hend
    have htake := takeNumber_signed negative (takeWhole_spelled hwhole hdigits) hwhole rfl hfraction
      hexponent
    have hvalue : (⟨negative, whole, none, none⟩ : NumberLiteral).value =
        .error (.longInteger whole.length) := if_pos hlong
    rw [readNumber, htake]
    simp only [hvalue]
    rfl

/-! ## Where a value is expected

The reader may stop where it expects a value for two reasons that do not depend on what it has read
before: the text ends there, or it goes on with a number that is too long. -/

/-- What the reader finds where it stops, with the fault that it reports. -/
inductive StopsAt : (place : List Char) → (trouble : JsonTrouble) → Prop
  | nothing : StopsAt [] (.malformed .value 0)
  | longInteger {digits : Nat} {place : List Char} (h : StartsLongInteger digits place) :
      StopsAt place (.longInteger digits)

/-- The faults that tell where the reader stopped. -/
def IsStop (trouble : JsonTrouble) : Prop :=
  trouble = .malformed .value 0 ∨ ∃ digits, trouble = .longInteger digits

theorem not_isStop {kind : JsonFault.Kind} {left : Nat} (hkind : kind ≠ .value) :
    ¬ IsStop (.malformed kind left) := by
  rintro (⟨⟨⟩⟩ | ⟨digits, ⟨⟩⟩)
  exact hkind rfl

theorem StartsLongInteger.spelled (h : StartsLongInteger digits place) :
    ∃ literal spelled rest, SpellsNumber literal spelled ∧ place = spelled ++ rest := by
  obtain @⟨negative, whole, rest, hwhole, -, -⟩ := h
  exact ⟨⟨negative, whole, none, none⟩, _, rest, ⟨hwhole, .absent, .absent⟩, by simp⟩

namespace StopsAt

theorem head (h : StopsAt place trouble) : ∀ c ∈ place.head?, c.isDigit = true ∨ c = '-' := by
  cases h with
  | nothing => simp
  | longInteger h =>
    obtain ⟨literal, spelled, rest, hspelled, rfl⟩ := h.spelled
    obtain ⟨c, others, rfl, hc⟩ := head_of_spellsNumber hspelled
    rintro d ⟨⟩
    exact hc.imp_right And.left

theorem head?_ne (h : StopsAt place trouble) (hdigit : c.isDigit = false) (hminus : c ≠ '-') :
    place.head? ≠ some c := by
  intro hc
  obtain hfound | hfound := h.head c hc
  · rw [hdigit] at hfound
    cases hfound
  · exact hminus hfound

theorem skipBlanks_eq (h : StopsAt place trouble) : skipBlanks place = place := by
  cases place with
  | nil => rfl
  | cons c rest =>
    refine skipBlanks_cons_eq.2 ?_
    rw [Bool.eq_false_iff]
    intro hblank
    simp only [isBlank, Bool.or_eq_true, beq_iff_eq] at hblank
    rcases hblank with ((rfl | rfl) | rfl) | rfl <;>
      exact absurd rfl (h.head?_ne (by decide) (by decide))

theorem fault (h : StopsAt place trouble) (bound : Nat) :
    readValue (bound + 1) place = .error trouble := by
  cases h with
  | nothing => rfl
  | longInteger h =>
    have hnumber := readNumber_longInteger_iff.2 h
    obtain ⟨literal, spelled, rest, hspelled, rfl⟩ := h.spelled
    rw [readValue_number bound hspelled, hnumber]

/-- Without what follows, a reader stops because nothing follows. -/
theorem of_length (h : IsStop (.malformed .value text.length)) :
    StopsAt text (.malformed .value text.length) := by
  obtain hlength | ⟨digits, ⟨⟩⟩ := h
  have hnil : text = [] := List.length_eq_zero_iff.1 (by injection hlength)
  subst hnil
  exact .nothing

theorem of_readNumber (h : readNumber text = .error trouble) (hstop : IsStop trouble) :
    StopsAt text trouble := by
  obtain rfl | ⟨digits, rfl, hstarts⟩ := readNumber_error h
  · exact of_length hstop
  · exact .longInteger hstarts

end StopsAt

/-- Behind `front` a reader goes for a value, and stops where that one stops. A bound for the steps
is enough if it is beyond twice the length, and for the inside of an array one step more. -/
def Expects {α : Type} (read : (bound : Nat) → List Char → Result α) (more : Nat)
    (front : List Char) : Prop :=
  ∀ place trouble bound, StopsAt place trouble → 2 * front.length + more < bound →
    read bound (front ++ place) = .error trouble

/-- A reader that stops has come to a place where it expects a value. -/
def Stops {α : Type} (read : (bound : Nat) → List Char → Result α) (more : Nat) (text : List Char)
    (trouble : JsonTrouble) : Prop :=
  ∃ front place, text = front ++ place ∧ StopsAt place trouble ∧ Expects read more front

/-- With a bound, the three readers stop only where they expect a value. -/
structure IsStopped (bound : Nat) : Prop where
  value {text : List Char} {trouble : JsonTrouble} (h : readValue bound text = .error trouble)
    (hstop : IsStop trouble) : Stops readValue 0 text trouble
  items {text : List Char} {trouble : JsonTrouble} (h : readItems bound text = .error trouble)
    (hstop : IsStop trouble) : Stops readItems 1 text trouble
  members {text : List Char} {trouble : JsonTrouble} {before : List (String × Json)}
    (h : readMembers bound text before = .error trouble) (hstop : IsStop trouble) :
    Stops (fun bound text => readMembers bound text before) 0 text trouble

/-! ### Blanks in front of a place -/

section

variable {front other : List Char}

theorem skipBlanks_front (h : skipBlanks (front ++ place) = front ++ place)
    (hother : skipBlanks other = other) : skipBlanks (front ++ other) = front ++ other := by
  cases front with
  | nil => exact hother
  | cons c more => exact skipBlanks_taken h (by simp) other

theorem head?_front (h : (front ++ place).head? ≠ some c) (hother : other.head? ≠ some c) :
    (front ++ other).head? ≠ some c := by
  cases front with
  | nil => exact hother
  | cons d more => simpa using h

/-- The blanks in front of a place are passed over whatever stands there. -/
theorem skipBlanks_place (h : skipBlanks text = front ++ place) :
    ∃ blanks, text = blanks ++ front ++ place ∧ ∀ other, skipBlanks other = other →
      skipBlanks (blanks ++ front ++ other) = front ++ other := by
  obtain ⟨blanks, hblanks, htext, -⟩ := skipBlanks_split text
  have hfixed := skipBlanks_skipBlanks text
  rw [h] at htext hfixed
  refine ⟨blanks, by rw [List.append_assoc]; exact htext, fun other hother => ?_⟩
  rw [List.append_assoc, skipBlanks, List.dropWhile_append_of_pos hblanks.isBlank]
  exact skipBlanks_front hfixed hother

/-- So are the blanks around a mark in front of it. -/
theorem skipBlanks_markPlace {next : List Char} (hmark : skipBlanks text = c :: next)
    (hnext : skipBlanks next = front ++ place) :
    ∃ before between, text = before ++ c :: (between ++ front) ++ place ∧ ∀ other,
      skipBlanks other = other →
        skipBlanks (before ++ c :: (between ++ front) ++ other) = c :: (between ++ front ++ other) ∧
          skipBlanks (between ++ front ++ other) = front ++ other := by
  obtain ⟨before, rfl, hbefore⟩ := skipBlanks_cut [c] hmark (by simp)
  obtain ⟨between, rfl, hbetween⟩ := skipBlanks_place hnext
  refine ⟨before, between, by simp, fun other hother => ⟨?_, hbetween other hother⟩⟩
  simpa using hbefore (between ++ front ++ other)

end

/-! ### Steps -/

theorem StopsAt.stops (h : StopsAt text trouble) : Stops readValue 0 text trouble :=
  ⟨[], text, rfl, h, fun _ _ bound hplace hbound => by
    obtain ⟨less, rfl⟩ : ∃ less, bound = less + 1 := ⟨bound - 1, by omega⟩
    exact hplace.fault less⟩

/-- The first item of an array is a value. -/
theorem Stops.items (h : Stops readValue 0 text trouble) : Stops readItems 1 text trouble := by
  obtain ⟨front, place, rfl, hplace, hexpects⟩ := h
  refine ⟨front, place, rfl, hplace, fun other fault bound hother hbound => ?_⟩
  obtain ⟨less, rfl⟩ : ∃ less, bound = less + 1 := ⟨bound - 1, by omega⟩
  rw [readItems, hexpects other fault less hother (by omega)]

/-- Behind the opening bracket of an array or an object the reader stops where it stops inside. -/
theorem Stops.bracket {α : Type} {read : (bound : Nat) → List Char → Result α} {more : Nat}
    {build : α → Json} {opening close : Char} (h : Stops read more (skipBlanks text) trouble)
    (hmore : more ≤ 1) (hopen : (skipBlanks text).head? ≠ some close)
    (hclose : close.isDigit = false ∧ close ≠ '-')
    (hread : ∀ bound behind, (skipBlanks behind).head? ≠ some close →
      readValue (bound + 1) (opening :: behind) =
        (read bound (skipBlanks behind)).map fun found => (build found.1, found.2)) :
    Stops readValue 0 (opening :: text) trouble := by
  obtain ⟨front, place, htext, hplace, hexpects⟩ := h
  obtain ⟨blanks, rfl, hskip⟩ := skipBlanks_place htext
  refine ⟨opening :: (blanks ++ front), place, by simp, hplace, fun other fault bound hother hbound => ?_⟩
  simp only [List.length_cons, List.length_append] at hbound
  obtain ⟨less, rfl⟩ : ∃ less, bound = less + 1 := ⟨bound - 1, by omega⟩
  have hfront := hskip other hother.skipBlanks_eq
  rw [htext] at hopen
  rw [List.cons_append, hread less _ (by
    rw [hfront]
    exact head?_front hopen (hother.head?_ne hclose.1 hclose.2)), hfront,
    hexpects other fault less hother (by omega)]
  rfl

theorem error_of_map {α β : Type} {build : α × List Char → β × List Char} {result : Result α}
    (h : result.map build = .error trouble) : result = .error trouble := by
  cases result <;> cases h
  rfl

theorem IsStopped.value_succ {bound : Nat} (hstopped : IsStopped bound)
    (h : readValue (bound + 1) text = .error trouble) (hstop : IsStop trouble) :
    Stops readValue 0 text trouble := by
  rw [readValue.eq_def] at h
  dsimp only at h
  split at h
  case h_1 =>
    obtain ⟨kind, left, hkind, rfl⟩ := readChars_error (error_of_map h)
    exact absurd hstop (not_isStop hkind)
  case h_2 behind =>
    split at h
    case h_1 => cases h
    case h_2 hopen =>
      exact (hstopped.members (error_of_map h) hstop).bracket (by decide) (head?_ne hopen)
        (by decide) fun bound _ => readValue_object bound
  case h_3 behind =>
    split at h
    case h_1 => cases h
    case h_2 hopen =>
      exact (hstopped.items (error_of_map h) hstop).bracket (by decide) (head?_ne hopen)
        (by decide) fun bound _ => readValue_array bound
  case h_10 =>
    exact (StopsAt.of_readNumber h hstop).stops
  all_goals cases h

theorem IsStopped.items_succ {bound : Nat} (hstopped : IsStopped bound)
    (h : readItems (bound + 1) text = .error trouble) (hstop : IsStop trouble) :
    Stops readItems 1 text trouble := by
  rw [readItems] at h
  split at h
  case h_1 fault hvalue =>
    cases h
    exact (hstopped.value hvalue hstop).items
  case h_2 item afterItem hitem =>
    split at h
    case h_1 => cases h
    case h_2 next hcomma =>
      obtain ⟨itemText, -, rfl, hread⟩ := (isLocal bound).value hitem
      obtain ⟨front, place, hnext, hplace, hexpects⟩ := hstopped.items (error_of_map h) hstop
      obtain ⟨before, between, rfl, hskip⟩ := skipBlanks_markPlace hcomma hnext
      refine ⟨itemText ++ (before ++ ',' :: (between ++ front)), place, by simp, hplace,
        fun other fault bound hother hbound => ?_⟩
      simp only [List.length_append, List.length_cons] at hbound
      obtain ⟨less, rfl⟩ : ∃ less, bound = less + 1 := ⟨bound - 1, by omega⟩
      obtain ⟨hmark, hbetween⟩ := hskip other hother.skipBlanks_eq
      rw [List.append_assoc, readItems, hread less _ (by omega)
        (isDelimited_of_skipBlanks hmark (by simp))]
      simp only [hmark, hbetween, hexpects other fault less hother (by omega)]
      rfl
    case h_3 =>
      cases h
      exact absurd hstop (not_isStop (by decide))

theorem IsStopped.members_succ {bound : Nat} (hstopped : IsStopped bound)
    {before : List (String × Json)} (h : readMembers (bound + 1) text before = .error trouble)
    (hstop : IsStop trouble) :
    Stops (fun bound text => readMembers bound text before) 0 text trouble := by
  obtain hfault | ⟨key, keyText, value, hkey, rfl, hvalue, hread⟩ := readMembers_cases text
  · -- A member without key and colon is malformed, which is no stop.
    obtain ⟨kind, left, hkind, hfault⟩ := hfault bound before
    rw [hfault] at h
    cases h
    exact absurd hstop (not_isStop hkind)
  have hlength := List.length_pos_iff.2 hkey
  rw [hread _ _ _ hvalue] at h
  cases hjson : readValue bound value with
  -- The stop is met in the value of this member, or, behind a comma, in the others.
  | error fault =>
    rw [hjson] at h
    cases h
    obtain ⟨front, place, rfl, hplace, hexpects⟩ := hstopped.value hjson hstop
    refine ⟨keyText ++ front, place, by simp, hplace, fun other fault bound hother hbound => ?_⟩
    simp only [List.length_append] at hbound
    obtain ⟨less, rfl⟩ : ∃ less, bound = less + 1 := ⟨bound - 1, by omega⟩
    dsimp only
    rw [List.append_assoc, hread _ _ _ (skipBlanks_front hvalue hother.skipBlanks_eq),
      hexpects other fault less hother (by omega), withMember]
  | ok found =>
    obtain ⟨json, behind⟩ := found
    rw [hjson] at h
    obtain ⟨valueText, hne, rfl, hreadValue⟩ := (isLocal bound).value hjson
    simp only [withMember] at h
    unfold afterMember at h
    split at h
    case h_1 => cases h
    case h_2 next hcomma =>
      obtain ⟨front, place, hnext, hplace, hexpects⟩ := hstopped.members h hstop
      obtain ⟨behindValue, between, rfl, hskip⟩ := skipBlanks_markPlace hcomma hnext
      refine ⟨keyText ++ (valueText ++ (behindValue ++ ',' :: (between ++ front))), place, by simp,
        hplace, fun other fault bound hother hbound => ?_⟩
      simp only [List.length_append, List.length_cons] at hbound
      obtain ⟨less, rfl⟩ : ∃ less, bound = less + 1 := ⟨bound - 1, by omega⟩
      obtain ⟨hmark, hbetween⟩ := hskip other hother.skipBlanks_eq
      have hothers := hexpects other fault less hother (by omega)
      dsimp only at hothers ⊢
      rw [List.append_assoc, List.append_assoc, hread _ _ _ (skipBlanks_taken hvalue hne _),
        hreadValue less _ (by omega) (isDelimited_of_skipBlanks hmark (by simp)), withMember, hmark,
        afterMember, hbetween, hothers]
    case h_3 =>
      cases h
      exact absurd hstop (not_isStop (by decide))

/-- **A reader stops only where it expects a value.** -/
theorem isStopped (bound : Nat) : IsStopped bound := by
  induction bound with
  | succ bound ih => exact ⟨ih.value_succ, ih.items_succ, ih.members_succ⟩
  | zero =>
    refine ⟨fun h hstop => ?_, fun h hstop => ?_, fun h hstop => ?_⟩
    · cases h
      exact (StopsAt.of_length hstop).stops
    · cases h
      exact (StopsAt.of_length hstop).stops.items
    · cases h
      exact absurd hstop (not_isStop (by decide))

/-! ## Whole texts -/

/-- A text is refused where a value is expected: with its end there, or with a number there that is
too long, it is refused for that. -/
theorem readDocument_stops (h : readDocument text = .error trouble) (hstop : IsStop trouble) :
    ∃ front place, text = front ++ place ∧ StopsAt place trouble ∧
      ∀ other fault, StopsAt other fault → readDocument (front ++ other) = .error fault := by
  unfold readDocument at h
  split at h
  · cases h
    exact absurd hstop (not_isStop (by decide))
  rename_i hmark
  split at h
  · rename_i fault hread
    cases h
    obtain ⟨front, place, hskipped, hplace, hexpects⟩ := (isStopped _).value hread hstop
    obtain ⟨blanks, rfl, hskip⟩ := skipBlanks_place hskipped
    refine ⟨blanks ++ front, place, rfl, hplace, fun other fault hother => ?_⟩
    have hunmarked : (blanks ++ front ++ other).head? ≠ some '\uFEFF' :=
      head?_front (head?_ne hmark) (hother.head?_ne (by decide) (by decide))
    have hfault := hexpects other fault (2 * (blanks ++ front ++ other).length + 1) hother (by
      simp only [List.length_append]
      omega)
    unfold readDocument
    split
    · simp_all
    · rw [hskip other hother.skipBlanks_eq, hfault]
  · split at h
    · cases h
    · cases h
      exact absurd hstop (not_isStop (by decide))

/-- A whole number with too many digits stands where a value is expected: the text in front of it is
malformed only because it ends there. -/
inductive HoldsLongInteger (digits : Nat) : List Char → Prop
  | mk {front number : List Char} (hfront : readDocument front = .error (.malformed .value 0))
      (hnumber : StartsLongInteger digits number) : HoldsLongInteger digits (front ++ number)

/-- **A text is refused for a whole number with too many digits** if it holds one where a value is
expected. -/
theorem readDocument_longInteger_iff :
    readDocument text = .error (.longInteger digits) ↔ HoldsLongInteger digits text := by
  constructor
  · intro h
    obtain ⟨front, place, rfl, hplace, hexpects⟩ := readDocument_stops h (.inr ⟨digits, rfl⟩)
    obtain ⟨⟩ | hnumber := hplace
    refine ⟨?_, hnumber⟩
    simpa using hexpects [] _ .nothing
  · rintro @⟨front, number, hfront, hnumber⟩
    obtain ⟨front, place, rfl, hplace, hexpects⟩ := readDocument_stops hfront (.inl rfl)
    cases hplace
    rw [List.append_nil]
    exact hexpects _ _ (.longInteger hnumber)

/-- A text is read, or malformed, or it holds such a number. -/
theorem readJson_longInteger_iff {text : String} :
    readJson text = .error (.longInteger digits) ↔ HoldsLongInteger digits text.toList := by
  rw [← readDocument_longInteger_iff, readJson]
  split <;> simp_all [JsonFault.locate]

end Document

end DartLayers
