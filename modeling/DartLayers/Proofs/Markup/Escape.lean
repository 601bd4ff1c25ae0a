import DartLayers.Proofs.Markup.Plain

/-!
# DartLayers — escaped texts

A text is put between the words of a marked-up text, raw or escaped. Escaped, it has no tags: it is
read as texts only, so that the console can show it. Raw, it is shown as if it were escaped only if
there is nothing to escape in it, since every tag that is read costs characters: the tag itself, or
the backslashes in front of it.

* **`Markup.readSideBySide`** — the pieces of a raw text and of the escaped one, side by side.
* **`Markup.check_escaped`** — an escaped text is shown.
* **`Markup.escapeTags_eq_of_plain_eq`** — a raw text that is shown like the escaped one has no tags.
* **`Markup.exists_pieces_escaped`** — an escaped text in front of a tag.
-/

namespace DartLayers.Markup

/-! ## Tags -/

/-- Whether a bracket closes a tag whose first character stands before a text. -/
def closesTag (text : List Char) : Bool :=
  (text.takeWhile (· != '[')).contains ']'

theorem isTag_cons (c : Char) (rest : List Char) :
    isTag (c :: rest) = (startsTag c && closesTag rest) := rfl

theorem closesTag_cons (c : Char) (rest : List Char) :
    closesTag (c :: rest) = (c != '[' && (c == ']' || closesTag rest)) := by
  by_cases hopen : c = '['
  · simp [closesTag, hopen]
  · have hclose : (']' == c) = (c == ']') := BEq.comm
    rw [closesTag, List.takeWhile_cons, if_pos (bne_iff_ne.2 hopen), List.contains_cons, hclose,
      bne_iff_ne.2 hopen, Bool.true_and, closesTag]

/-- What follows a text closes no tag in it if it closes none by itself. -/
theorem closesTag_append {rest : List Char} (h : closesTag rest = false) (text : List Char) :
    closesTag (text ++ rest) = closesTag text := by
  induction text with
  | nil => exact h
  | cons c others ih => rw [List.cons_append, closesTag_cons, closesTag_cons, ih]

theorem isTag_append {rest : List Char} (h : closesTag rest = false) (text : List Char) :
    isTag (text ++ rest) = isTag text := by
  cases text with
  | nil =>
    cases rest with
    | nil => rfl
    | cons c others =>
      rw [closesTag_cons] at h
      rw [List.nil_append, isTag_cons, isTag]
      by_cases hopen : c = '['
      · simp [hopen, startsTag]
      · simp only [bne_iff_ne.2 hopen, Bool.true_and, Bool.or_eq_false_iff] at h
        rw [h.2, Bool.and_false]
  | cons c others => rw [List.cons_append, isTag_cons, isTag_cons, closesTag_append h]

/-- A bracket that closes a tag is the first bracket. -/
theorem exists_of_closesTag {text : List Char} (h : closesTag text = true) :
    ∃ inner rest, text = inner ++ ']' :: rest ∧ ∀ c ∈ inner, c ≠ '[' ∧ c ≠ ']' := by
  induction text with
  | nil => cases h
  | cons c others ih =>
    rw [closesTag_cons, Bool.and_eq_true, bne_iff_ne, Bool.or_eq_true, beq_iff_eq] at h
    obtain ⟨hopen, rfl | hrest⟩ := h
    · exact ⟨[], others, rfl, by simp⟩
    · by_cases hclose : c = ']'
      · exact ⟨[], others, by rw [hclose, List.nil_append], by simp⟩
      · obtain ⟨inner, rest, rfl, hinner⟩ := ih hrest
        exact ⟨c :: inner, rest, rfl, List.forall_mem_cons.2 ⟨⟨hopen, hclose⟩, hinner⟩⟩

/-- The text of a tag has no brackets. -/
theorem exists_of_isTag {text : List Char} (h : isTag text = true) :
    ∃ inner rest, text = inner ++ ']' :: rest ∧ (∀ c ∈ inner, c ≠ '[' ∧ c ≠ ']') ∧
      ∀ others, isTag (inner ++ ']' :: others) = true := by
  cases text with
  | nil => cases h
  | cons c tail =>
    rw [isTag_cons, Bool.and_eq_true] at h
    obtain ⟨hstart, hclose⟩ := h
    obtain ⟨inner, rest, rfl, hinner⟩ := exists_of_closesTag hclose
    have hfront : c ≠ '[' ∧ c ≠ ']' := by
      constructor
      all_goals
        rintro rfl
        revert hstart
        decide
    refine ⟨c :: inner, rest, rfl, List.forall_mem_cons.2 ⟨hfront, hinner⟩, fun others => ?_⟩
    have hcloses : ∀ stretch : List Char, (∀ d ∈ stretch, d ≠ '[' ∧ d ≠ ']') →
        closesTag (stretch ++ ']' :: others) = true := by
      intro stretch hstretch
      induction stretch with
      | nil => rw [List.nil_append, closesTag_cons]; rfl
      | cons d more ih =>
        rw [List.forall_mem_cons] at hstretch
        rw [List.cons_append, closesTag_cons, ih hstretch.2]
        simp [hstretch.1.1]
    rw [List.cons_append, isTag_cons, hstart, hcloses inner hinner]
    rfl

/-! ## Escaping -/

/-- Escaping keeps the backslashes in front. -/
theorem exists_escapeTags (pending : Nat) (text : List Char) :
    ∃ rest, escapeTags pending text = List.replicate pending '\\' ++ rest := by
  induction text generalizing pending with
  | nil => exact ⟨[], by rw [escapeTags, List.append_nil]⟩
  | cons c others ih =>
    rw [escapeTags]
    split
    · obtain ⟨rest, hrest⟩ := ih (pending + 1)
      exact ⟨'\\' :: rest, by rw [hrest, List.replicate_succ', List.append_assoc]; rfl⟩
    · split
      · refine ⟨List.replicate (pending + 1) '\\' ++ '[' :: escapeTags 0 others, ?_⟩
        rw [← List.append_assoc, List.replicate_append_replicate]
        congr 2
        omega
      · exact ⟨_, rfl⟩

theorem closesTag_replicate (count : Nat) (rest : List Char) :
    closesTag (List.replicate count '\\' ++ rest) = closesTag rest := by
  induction count with
  | zero => rfl
  | succ count ih =>
    rw [List.replicate_succ, List.cons_append, closesTag_cons, ih]
    rfl

theorem closesTag_escapeTags (pending : Nat) (text : List Char) :
    closesTag (escapeTags pending text) = closesTag text := by
  induction text generalizing pending with
  | nil =>
    rw [escapeTags]
    simpa using closesTag_replicate pending []
  | cons c others ih =>
    rw [escapeTags]
    split
    · rename_i hslash
      rw [ih, hslash, closesTag_cons]
      rfl
    · split
      · rename_i htag
        rw [Bool.and_eq_true, decide_eq_true_eq] at htag
        rw [closesTag_replicate, closesTag_cons, htag.1, closesTag_cons]
        rfl
      · rw [closesTag_replicate, closesTag_cons, closesTag_cons, ih]

/-- Escaping makes no tag. -/
theorem isTag_escapeTags (text : List Char) : isTag (escapeTags 0 text) = isTag text := by
  cases text with
  | nil => rfl
  | cons c others =>
    rw [escapeTags]
    split
    · rename_i hslash
      obtain ⟨rest, hrest⟩ := exists_escapeTags 1 others
      rw [hrest, hslash]
      rfl
    · split
      · rename_i htag
        rw [Bool.and_eq_true, decide_eq_true_eq] at htag
        rw [htag.1]
        rfl
      · have hfront : List.replicate 0 '\\' ++ c :: escapeTags 0 others = c :: escapeTags 0 others :=
          rfl
        rw [hfront, isTag_cons, isTag_cons, closesTag_escapeTags]

/-- Where no bracket opens there is nothing to escape. -/
theorem escapeTags_append_of_notMem {inner : List Char} (h : ∀ c ∈ inner, c ≠ '[') (pending : Nat)
    (rest : List Char) : escapeTags pending (inner ++ ']' :: rest) =
      List.replicate pending '\\' ++ inner ++ ']' :: escapeTags 0 rest := by
  induction inner generalizing pending with
  | nil =>
    rw [List.nil_append, escapeTags, if_neg (by decide), if_neg (by simp), List.append_nil]
  | cons c others ih =>
    rw [List.forall_mem_cons] at h
    rw [List.cons_append, escapeTags]
    split
    · rename_i hslash
      rw [ih h.2, List.replicate_succ', hslash]
      simp
    · rw [if_neg (by simp [h.1]), ih h.2]
      simp

/-! ## Reading -/

/-- Backslashes are counted. -/
theorem piecesFrom_replicate (count position : Nat) (read : List Char) (backslashes : Nat)
    (rest : List Char) :
    piecesFrom position (.outside read backslashes) (List.replicate count '\\' ++ rest) =
      piecesFrom (position + count) (.outside read (backslashes + count)) rest := by
  induction count generalizing position backslashes with
  | zero => rfl
  | succ count ih =>
    rw [List.replicate_succ, List.cons_append, piecesFrom, if_pos rfl, ih]
    congr 1
    · omega
    · congr 1
      omega

/-- A tag is read up to its end. -/
theorem piecesFrom_inside {inner : List Char} (h : ∀ c ∈ inner, c ≠ '[' ∧ c ≠ ']')
    (position : Nat) (isEscaped : Bool) (start : Nat) (read rest : List Char) :
    piecesFrom position (.inside isEscaped start read) (inner ++ ']' :: rest) =
      tagPiece isEscaped start (read.reverse ++ inner) ::
        piecesFrom (position + inner.length + 1) (.outside [] 0) rest := by
  induction inner generalizing position read with
  | nil => rw [List.nil_append, piecesFrom, if_pos rfl, List.append_nil]; rfl
  | cons c others ih =>
    rw [List.forall_mem_cons] at h
    rw [List.cons_append, piecesFrom, if_neg h.1.2, ih h.2, List.reverse_cons, List.append_assoc,
      List.length_cons]
    congr 2
    omega

/-- A tag behind backslashes is read with the texts in front of it. -/
theorem piecesFrom_tag {inner : List Char} (h : ∀ c ∈ inner, c ≠ '[' ∧ c ≠ ']') {rest : List Char}
    (htag : isTag (inner ++ ']' :: rest) = true) (position : Nat) (read : List Char)
    (backslashes : Nat) :
    piecesFrom position (.outside read backslashes) ('[' :: (inner ++ ']' :: rest)) =
      textPiece read.reverse ++ textPiece (List.replicate (backslashes / 2) '\\') ++
        tagPiece (backslashes % 2 = 1) position inner ::
          piecesFrom (position + 1 + inner.length + 1) (.outside [] 0) rest := by
  rw [piecesFrom, if_neg (by decide), if_pos (by rw [htag]; rfl), piecesFrom_inside h]
  rfl

/-- Where no bracket follows, the position plays no part. -/
theorem piecesFrom_position {text : List Char} (h : '[' ∉ text) (position other : Nat)
    (read : List Char) (backslashes : Nat) :
    piecesFrom position (.outside read backslashes) text =
      piecesFrom other (.outside read backslashes) text := by
  induction text generalizing position other read backslashes with
  | nil => rw [piecesFrom, piecesFrom]
  | cons c rest ih =>
    rw [List.mem_cons, not_or] at h
    rw [piecesFrom, piecesFrom]
    split
    · exact ih h.2 _ _ _ _
    · rw [if_neg (by simp [Ne.symm h.1]), if_neg (by simp [Ne.symm h.1])]
      exact ih h.2 _ _ _ _

theorem dropProtection_replicate (count : Nat) :
    dropProtection (List.replicate count '\\') = List.replicate count '\\' := by
  induction count with
  | zero => rfl
  | succ count ih =>
    cases count with
    | zero => rfl
    | succ count =>
      have hfront : dropProtection ('\\' :: '\\' :: List.replicate count '\\') =
        '\\' :: dropProtection ('\\' :: List.replicate count '\\') := rfl
      rw [List.replicate_succ] at ih ⊢
      rw [List.replicate_succ, hfront, ih]

theorem replaceFrom_replicate (count : Nat) :
    Emoji.replaceFrom none (List.replicate count '\\') = List.replicate count '\\' := by
  induction count with
  | zero => rfl
  | succ count ih => rw [List.replicate_succ, Emoji.replaceFrom, if_neg (by decide), ih]

/-- Backslashes are shown. -/
theorem length_shown_replicate (count : Nat) :
    ((textPiece (List.replicate count '\\')).flatMap Piece.shown).length = count := by
  cases count with
  | zero => rfl
  | succ count =>
    have hvisible : (List.replicate (count + 1) '\\').filter (fun c => !isHidden c) =
        List.replicate (count + 1) '\\' :=
      List.filter_eq_self.2 fun c hc => by rw [List.eq_of_mem_replicate hc]; decide
    rw [textPiece, if_neg (by simp), dropProtection_replicate, List.flatMap_singleton, Piece.shown,
      Emoji.replace, replaceFrom_replicate, hvisible, List.length_replicate]

/-- Something is shown of an escaped tag. -/
theorem length_shown_tagPiece (start : Nat) (inner : List Char) :
    0 < (tagPiece true start inner).shown.length := by
  have hfront : Emoji.replace ('[' :: inner ++ [']']) =
    '[' :: Emoji.replaceFrom none (inner ++ [']']) := rfl
  rw [tagPiece, if_pos rfl, Piece.shown, hfront, List.filter_cons_of_pos (by decide),
    List.length_cons]
  exact Nat.succ_pos _

/-! ## Side by side -/

/-- What is read of a raw text and of the escaped one: nothing, and then there is no tag in it, or
pieces of which less is shown when it is raw. -/
inductive SideBySide (pending : Nat) (text : List Char) (raw escaped : List Piece) : Prop where
  | same (hraw : raw = []) (hescaped : escaped = [])
      (h : escapeTags pending text = List.replicate pending '\\' ++ text)
  | less (htexts : ∀ piece ∈ escaped, piece.isText)
      (h : (raw.flatMap Piece.shown).length < (escaped.flatMap Piece.shown).length)

/-- A tag costs characters when it is read raw. -/
theorem SideBySide.of_tag {pending : Nat} {inner rest : List Char} {raw escaped : List Piece}
    (h : SideBySide 0 rest raw escaped) (read : List Char) (position other : Nat) :
    SideBySide pending ('[' :: (inner ++ ']' :: rest))
      (textPiece read ++ textPiece (List.replicate (pending / 2) '\\') ++
        tagPiece (pending % 2 = 1) position inner :: raw)
      (textPiece read ++ textPiece (List.replicate pending '\\') ++
        tagPiece true other inner :: escaped) := by
  have hrest : (raw.flatMap Piece.shown).length ≤ (escaped.flatMap Piece.shown).length ∧
      ∀ piece ∈ escaped, piece.isText := by
    cases h with
    | same hraw hescaped =>
      rw [hraw, hescaped]
      exact ⟨Nat.le_refl _, by simp⟩
    | less htexts h => exact ⟨Nat.le_of_lt h, htexts⟩
  refine .less (fun piece hpiece => ?_) ?_
  · rw [List.mem_append, List.mem_append, List.mem_cons] at hpiece
    rcases hpiece with (hread | hslashes) | rfl | hbehind
    · exact isText_of_mem_textPiece piece hread
    · exact isText_of_mem_textPiece piece hslashes
    · rfl
    · exact hrest.2 piece hbehind
  · have hsome := length_shown_tagPiece other inner
    simp only [List.flatMap_append, List.flatMap_cons, List.length_append, length_shown_replicate]
    -- The tag is shown, too, if it is escaped already; then there are backslashes in front of it.
    by_cases hodd : pending % 2 = 1
    · have hsame : (tagPiece (decide (pending % 2 = 1)) position inner).shown =
          (tagPiece true other inner).shown := by
        rw [decide_eq_true hodd]
        rfl
      rw [hsame]
      omega
    · have hnone : (tagPiece (decide (pending % 2 = 1)) position inner).shown = [] := by
        rw [decide_eq_false hodd]
        rfl
      rw [hnone, List.length_nil]
      omega

/-- A raw text and the escaped one are read side by side, behind a text and some backslashes, up to
what follows them. -/
def ReadSideBySide (rest : List Char) (pending : Nat) (text read : List Char) : Prop :=
  ∀ position other, ∃ raw escaped behind final place spot,
    piecesFrom position (.outside read pending) (text ++ rest) =
        raw ++ piecesFrom place (.outside behind final) rest ∧
      piecesFrom other (.outside read 0) (escapeTags pending text ++ rest) =
          escaped ++ piecesFrom spot (.outside behind final) rest ∧
        SideBySide pending text raw escaped

namespace ReadSideBySide

variable {rest text read : List Char} {pending : Nat}

theorem nil : ReadSideBySide rest pending [] read := by
  intro position other
  refine ⟨[], [], read, pending, position, other + pending, rfl, ?_, .same rfl rfl ?_⟩
  · rw [escapeTags, piecesFrom_replicate, Nat.zero_add]
    rfl
  · rw [escapeTags, List.append_nil]

/-- A backslash waits for what follows it. -/
theorem backslash (h : ReadSideBySide rest (pending + 1) text read) :
    ReadSideBySide rest pending ('\\' :: text) read := by
  intro position other
  obtain ⟨raw, escaped, behind, final, place, spot, hraw, hescaped, hside⟩ := h (position + 1) other
  refine ⟨raw, escaped, behind, final, place, spot, ?_, ?_, ?_⟩
  · rw [List.cons_append, piecesFrom, if_pos rfl, hraw]
  · rw [escapeTags, if_pos rfl, hescaped]
  · cases hside with
    | same hraw hescaped h =>
      refine .same hraw hescaped ?_
      rw [escapeTags, if_pos rfl, h, List.replicate_succ', List.append_assoc]
      rfl
    | less htexts h => exact .less htexts h

/-- A tag is read as a whole. -/
theorem tag {inner : List Char} (hinner : ∀ c ∈ inner, c ≠ '[' ∧ c ≠ ']')
    (htags : ∀ others, isTag (inner ++ ']' :: others) = true)
    (h : ReadSideBySide rest 0 text []) :
    ReadSideBySide rest pending ('[' :: (inner ++ ']' :: text)) read := by
  intro position other
  obtain ⟨raw, escaped, behind, final, place, spot, hraw, hescaped, hside⟩ :=
    h (position + 1 + inner.length + 1) (other + (2 * pending + 1) + 1 + inner.length + 1)
  have hescape : escapeTags pending ('[' :: (inner ++ ']' :: text)) =
      List.replicate (2 * pending + 1) '\\' ++ '[' :: (inner ++ ']' :: escapeTags 0 text) := by
    rw [escapeTags, if_neg (by decide), if_pos (by rw [htags]; rfl),
      escapeTags_append_of_notMem fun d hd => (hinner d hd).1]
    rfl
  have hcount : (0 + (2 * pending + 1)) / 2 = pending ∧
      decide ((0 + (2 * pending + 1)) % 2 = 1) = true := by
    rw [decide_eq_true_eq]
    omega
  refine ⟨_, _, behind, final, place, spot, ?_, ?_,
    hside.of_tag read.reverse position (other + (2 * pending + 1))⟩
  · rw [List.cons_append, List.append_assoc, List.cons_append, piecesFrom_tag hinner (htags _), hraw]
    simp
  · rw [hescape, List.append_assoc, List.cons_append, List.append_assoc, List.cons_append,
      piecesFrom_replicate, piecesFrom_tag hinner (htags _), hcount.1, hcount.2, hescaped]
    simp

/-- Any other character ends the backslashes in front of it. -/
theorem char (hrest : closesTag rest = false) {c : Char} (hslash : c ≠ '\\')
    (htag : ¬ (c = '[' ∧ isTag text = true))
    (h : ReadSideBySide rest 0 text (c :: List.replicate pending '\\' ++ read)) :
    ReadSideBySide rest pending (c :: text) read := by
  intro position other
  -- Whether the character opens a tag is decided in front of it, with the rest or without.
  have hplain : ∀ stretch : List Char, isTag stretch = isTag text →
      (decide (c = '[') && isTag stretch) = false := by
    intro stretch hsame
    rw [hsame, Bool.and_eq_false_iff, decide_eq_false_iff_not]
    by_cases hopen : c = '['
    · exact .inr (by simpa [hopen] using htag)
    · exact .inl hopen
  obtain ⟨raw, escaped, behind, final, place, spot, hraw, hescaped, hside⟩ :=
    h (position + 1) (other + pending + 1)
  have hescape : escapeTags pending (c :: text) =
      List.replicate pending '\\' ++ c :: escapeTags 0 text := by
    rw [escapeTags, if_neg hslash, hplain text rfl]
    rfl
  refine ⟨raw, escaped, behind, final, place, spot, ?_, ?_, ?_⟩
  · rw [List.cons_append, piecesFrom, if_neg hslash, hplain _ (isTag_append hrest text)]
    exact hraw
  · rw [hescape, List.append_assoc, List.cons_append, piecesFrom_replicate, Nat.zero_add,
      piecesFrom, if_neg hslash, hplain _ ((isTag_append hrest _).trans (isTag_escapeTags text))]
    exact hescaped
  · cases hside with
    | same hraw hescaped h =>
      refine .same hraw hescaped ?_
      rw [hescape, h]
      rfl
    | less htexts h => exact .less htexts h

end ReadSideBySide

/-- **A raw text and the escaped one are read side by side**, if what follows closes no tag in them.
The induction is on the length, as a tag is read as a whole. -/
theorem readSideBySide {rest : List Char} (hrest : closesTag rest = false) (pending : Nat)
    (text read : List Char) : ReadSideBySide rest pending text read := by
  induction hlength : text.length using Nat.strongRecOn generalizing pending text read with
  | ind length ih =>
    subst hlength
    cases text with
    | nil => exact .nil
    | cons c others =>
      have hshort : others.length < (c :: others).length := Nat.lt_succ_self _
      by_cases hslash : c = '\\'
      · rw [hslash]
        exact .backslash (ih _ hshort (pending + 1) others read rfl)
      · by_cases htag : c = '[' ∧ isTag others = true
        · obtain ⟨rfl, htag⟩ := htag
          obtain ⟨inner, tail, rfl, hinner, htags⟩ := exists_of_isTag htag
          refine .tag hinner htags (ih _ ?_ 0 tail [] rfl)
          simp only [List.length_cons, List.length_append]
          omega
        · exact .char hrest hslash htag (ih _ hshort 0 others _ rfl)

/-! ## Showing -/

/-- Texts are shown without styles. -/
theorem check_of_isText {markup : String} (h : ∀ piece ∈ piecesOf markup.toList, piece.isText) :
    check markup = .ok () ∧ ∃ shown, plain markup = .ok shown := by
  obtain ⟨reading, hreading, hopened, hspans⟩ := exists_foldlM_addPiece h {}
  have hread : read markup = .ok reading.finish := by
    rw [read, hreading]
    rfl
  constructor
  · have hnone : reading.finish.spans = [] := by
      rw [Reading.finish, hopened, hspans]
      exact List.mergeSort_nil
    have hcheck : check markup = reading.finish.check := by
      rw [check, hread]
      rfl
    rw [hcheck, Shown.check, hnone]
    rfl
  · refine ⟨String.ofList reading.finish.text, ?_⟩
    rw [plain, hread]
    rfl

/-! ## Between words -/

section

variable {front back : String} (hfront : ∀ c ∈ front.toList, c ≠ '[' ∧ c ≠ '\\')
  (hback : '[' ∉ back.toList ∧ ']' ∉ back.toList) {text : String}

include hfront hback

/-- The pieces of a text between words, raw and escaped. -/
theorem exists_pieces_between (text : String) :
    ∃ raw escaped behind,
      piecesOf (front ++ text ++ back).toList = raw ++ behind ∧
      piecesOf (front ++ String.ofList (escapeTags 0 text.toList) ++ back).toList =
        escaped ++ behind ∧
      (∀ piece ∈ behind, piece.isText) ∧ SideBySide 0 text.toList raw escaped := by
  have hcloses : closesTag back.toList = false := by
    rw [closesTag, List.contains_eq_mem, decide_eq_false_iff_not]
    exact fun hmem => hback.2 ((List.takeWhile_sublist _).subset hmem)
  obtain ⟨raw, escaped, read, final, place, spot, hraw, hescaped, hside⟩ :=
    readSideBySide hcloses 0 text.toList (front.toList.reverse ++ []) (0 + front.toList.length)
      (0 + front.toList.length)
  refine ⟨raw, escaped, _, ?_, ?_, isText_of_mem_piecesFrom hback.1 place read final, hside⟩
  · rw [piecesOf, String.toList_append, String.toList_append, List.append_assoc,
      piecesFrom_append hfront, hraw]
  · rw [piecesOf, String.toList_append, String.toList_append, String.toList_ofList,
      List.append_assoc, piecesFrom_append hfront, hescaped, piecesFrom_position hback.1 spot place]

/-- **A text without tags is shown.** -/
theorem check_escaped (text : String) :
    check (front ++ String.ofList (escapeTags 0 text.toList) ++ back) = .ok () ∧
      ∃ shown, plain (front ++ String.ofList (escapeTags 0 text.toList) ++ back) = .ok shown := by
  obtain ⟨raw, escaped, behind, -, hpieces, hbehind, hside⟩ :=
    exists_pieces_between hfront hback text
  refine check_of_isText fun piece hpiece => ?_
  rw [hpieces, List.mem_append] at hpiece
  refine hpiece.elim (fun hescaped => ?_) (hbehind piece)
  cases hside with
  | same hraw hnone => rw [hnone] at hescaped; cases hescaped
  | less htexts => exact htexts piece hescaped

/-- **A raw text that is shown like the escaped one has no tags.** -/
theorem escapeTags_eq_of_plain_eq {shown : String} (hraw : plain (front ++ text ++ back) = .ok shown)
    (hescaped : plain (front ++ String.ofList (escapeTags 0 text.toList) ++ back) = .ok shown) :
    escapeTags 0 text.toList = text.toList := by
  obtain ⟨raw, escaped, behind, hrawPieces, hescapedPieces, -, hside⟩ :=
    exists_pieces_between hfront hback text
  cases hside with
  | same _ _ h => exact h
  | less _ h =>
    have hsame := (plain_eq_ok hraw).symm.trans (plain_eq_ok hescaped)
    rw [hrawPieces, hescapedPieces, List.flatMap_append, List.flatMap_append,
      List.append_cancel_right_eq] at hsame
    rw [hsame] at h
    exact absurd h (Nat.lt_irrefl _)

end

/-! ## The end of a text -/

theorem guardEnd_cases (text : List Char) :
    guardEnd text = text ∨ guardEnd text = text ++ ['\\'] := by
  rw [guardEnd]
  split
  · rename_i hreverse
    have htext := congrArg List.reverse hreverse
    rw [List.reverse_reverse] at htext
    rw [htext]
    exact .inr rfl
  · split
    · exact .inl rfl
    · exact .inr rfl
  · exact .inl rfl

theorem le_length_escapeTags (pending : Nat) (text : List Char) :
    pending + text.length ≤ (escapeTags pending text).length := by
  induction text generalizing pending with
  | nil => rw [escapeTags, List.length_replicate]; exact Nat.le_refl _
  | cons c others ih =>
    rw [escapeTags]
    split
    · have hrest := ih (pending + 1)
      rw [List.length_cons]
      omega
    · have hrest := ih 0
      split <;> simp only [List.length_append, List.length_replicate, List.length_cons] <;> omega

/-- A text with nothing to escape has no tags. -/
theorem escapeTags_of_escape_eq {text : String} (h : escape text = text) :
    escapeTags 0 text.toList = text.toList := by
  have hguard : guardEnd (escapeTags 0 text.toList) = text.toList := by
    have hlist := congrArg String.toList h
    rwa [escape, String.toList_ofList] at hlist
  rcases guardEnd_cases (escapeTags 0 text.toList) with hsame | hmore
  · exact hsame.symm.trans hguard
  · have hlength := congrArg List.length (hmore.symm.trans hguard)
    have hlong := le_length_escapeTags 0 text.toList
    rw [List.length_append, List.length_singleton] at hlength
    omega

/-- The end of a text stays unless it is a backslash. -/
theorem exists_escapeTags_concat (pending : Nat) (text : List Char) {last : Char}
    (h : last ≠ '\\') : ∃ front, escapeTags pending (text ++ [last]) = front ++ [last] := by
  induction text generalizing pending with
  | nil => exact ⟨List.replicate pending '\\', by simp [escapeTags, h, isTag]⟩
  | cons c others ih =>
    rw [List.cons_append, escapeTags]
    split
    · exact ih (pending + 1)
    · obtain ⟨front, hfront⟩ := ih 0
      rw [hfront]
      split
      · exact ⟨List.replicate (2 * pending + 1) '\\' ++ '[' :: front, by simp⟩
      · exact ⟨List.replicate pending '\\' ++ c :: front, by simp⟩

/-- Only the tags of a text are escaped if it does not end in a backslash. -/
theorem escape_of_last {text : String} {front : List Char} {last : Char}
    (htext : text.toList = front ++ [last]) (h : last ≠ '\\') :
    escape text = String.ofList (escapeTags 0 text.toList) := by
  obtain ⟨others, hothers⟩ := exists_escapeTags_concat 0 front h
  have hguard : guardEnd (others ++ [last]) = others ++ [last] := by
    rw [guardEnd, List.reverse_append]
    split
    · rename_i hreverse
      exact absurd (List.cons.inj hreverse).1 h
    · rename_i hreverse
      exact absurd (List.cons.inj hreverse).1 h
    · rfl
  rw [escape, htext, hothers, hguard]

/-- Nothing is escaped where no bracket opens and there is no backslash. -/
theorem escape_of_notMem {text : String} (hopen : '[' ∉ text.toList) (hslash : '\\' ∉ text.toList) :
    escape text = text := by
  have htags : ∀ stretch : List Char, '[' ∉ stretch → '\\' ∉ stretch →
      escapeTags 0 stretch = stretch := by
    intro stretch hopen hslash
    induction stretch with
    | nil => rfl
    | cons c others ih =>
      rw [List.mem_cons, not_or] at hopen hslash
      rw [escapeTags, if_neg (Ne.symm hslash.1), if_neg (by simp [Ne.symm hopen.1]),
        ih hopen.2 hslash.2]
      rfl
  rcases List.eq_nil_or_concat text.toList with hnone | ⟨front, last, htext⟩
  · rw [escape, hnone]
    exact (String.ofList_toList (s := text) ▸ congrArg String.ofList hnone).symm
  · rw [List.concat_eq_append] at htext
    have hlast : last ≠ '\\' := by
      rintro rfl
      exact hslash (htext ▸ List.mem_append_right _ List.mem_cons_self)
    rw [escape_of_last htext hlast, htags _ hopen hslash, String.ofList_toList]

/-! ## In front of a tag -/

/-- **An escaped text in front of a tag is read as texts**, up to the bracket of the tag. -/
theorem exists_pieces_escaped (text : String) (rest : List Char) (position : Nat) :
    ∃ texts behind final place,
      piecesFrom position (.outside [] 0) ((escape text).toList ++ '[' :: rest) =
        texts ++ piecesFrom place (.outside behind final) ('[' :: rest) ∧
      ∀ piece ∈ texts, piece.isText := by
  have hguard : ∃ count, guardEnd (escapeTags 0 text.toList) =
      escapeTags 0 text.toList ++ List.replicate count '\\' := by
    rcases guardEnd_cases (escapeTags 0 text.toList) with hsame | hmore
    · exact ⟨0, by rw [hsame]; simp⟩
    · exact ⟨1, hmore⟩
  obtain ⟨count, hguard⟩ := hguard
  have hcloses : closesTag (List.replicate count '\\' ++ '[' :: rest) = false := by
    rw [closesTag_replicate, closesTag_cons]
    rfl
  obtain ⟨raw, texts, behind, final, -, spot, -, htexts, hside⟩ :=
    readSideBySide hcloses 0 text.toList [] position position
  refine ⟨texts, behind, final + count, spot + count, ?_, ?_⟩
  · rw [escape, String.toList_ofList, hguard, List.append_assoc, htexts, piecesFrom_replicate]
  · cases hside with
    | same _ hnone => rw [hnone]; simp
    | less h => exact h

theorem eq_of_tagPiece {tag : Tag} {isEscaped : Bool} {start : Nat} {inner : List Char}
    (h : .tag tag = tagPiece isEscaped start inner) : tag = .ofText start inner := by
  rw [tagPiece] at h
  split at h <;> cases h
  rfl

end DartLayers.Markup
