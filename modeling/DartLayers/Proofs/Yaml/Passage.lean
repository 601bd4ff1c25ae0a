import DartLayers.Proofs.Yaml.Block
import Mathlib.Data.List.TakeWhile

/-!
# DartLayers — reading between entries

A reader is followed from one place to the next: each of its steps comes through, gives a value and
stops somewhere, and the next step starts there. Between two entries of a text in block style, and
behind the last one, there are margins only; they are passed over, whatever is on them.

* **`Reads`** — a step of a reader that comes through.
* **`Between`** — there are margins between a place and the text behind them.
* **`Between.reads_skipToToken`** — margins are passed over.
-/

namespace DartLayers.Yaml

section

variable {σ ε α β : Type}

/-- A step comes through with a value and goes on from another state. -/
def Reads (step : StateT σ (Except ε) α) (start : σ) (value : α) (stop : σ) : Prop :=
  step start = .ok (value, stop)

variable {start middle stop : σ}

theorem Reads.bind {first : StateT σ (Except ε) α} {next : α → StateT σ (Except ε) β} {value : α}
    {result : β} (h : Reads first start value middle) (hnext : Reads (next value) middle result stop) :
    Reads (first >>= next) start result stop := by
  rw [Reads] at h hnext ⊢
  simp only [Bind.bind, StateT.bind, Except.bind, h, hnext]

theorem Reads.pure (value : α) :
    Reads (Pure.pure value : StateT σ (Except ε) α) start value start :=
  rfl

theorem Reads.map {step : StateT σ (Except ε) α} {value : α} (h : Reads step start value stop)
    (f : α → β) : Reads (f <$> step) start (f value) stop := by
  rw [Reads] at h ⊢
  simp only [Functor.map, StateT.map, Bind.bind, Except.bind, h]
  rfl

theorem Reads.discard {step : StateT σ (Except ε) α} {value : α} (h : Reads step start value stop) :
    Reads (discard step) start () stop := by
  rw [Reads] at h ⊢
  simp only [Functor.discard, Functor.mapConst, StateT.map, Function.comp, Function.const, Bind.bind,
    Except.bind, h]
  rfl

theorem reads_get : Reads (get : StateT σ (Except ε) σ) start start start :=
  rfl

end

section

variable {start : Cursor}

theorem reads_peek : Reads Reading.peek start start.peek start :=
  rfl

theorem reads_advance (count : Nat) : Reads (Reading.advance count) start () (start.advance count) :=
  rfl

theorem reads_require {condition : Bool} (h : condition = true) :
    Reads (Reading.require condition) start () start := by
  rw [Reading.require, if_pos h]
  rfl

end

/-! ## Characters -/

theorem not_isBreak_of_isInline {c : Char} (h : isInline c) : isBreak c = false := by
  simp only [isInline, Bool.and_eq_true, Bool.not_eq_true'] at h
  exact h.1.2

theorem Cursor.step_inline {c : Char} (h : isInline c) (rest : List Char)
    (index line column : Nat) :
    step ⟨c :: rest, index, line, column⟩ = ⟨rest, index + 1, line, column + 1⟩ := by
  simp only [isInline, Bool.and_eq_true, Bool.not_eq_true', bne_iff_ne] at h
  simp [step, breaksAfter, h]

/-- Characters inside a line are passed over in it. -/
theorem Cursor.advance_inline {word : List Char} (h : ∀ c ∈ word, isInline c) (rest : List Char)
    (index line column : Nat) : advance word.length ⟨word ++ rest, index, line, column⟩ =
      ⟨rest, index + word.length, line, column + word.length⟩ := by
  induction word generalizing index column with
  | nil => rfl
  | cons c word ih =>
    rw [List.forall_mem_cons] at h
    rw [List.length_cons, List.cons_append, advance, step_inline h.1, ih h.2]
    congr 1 <;> omega

variable {rest : List Char} {index line column : Nat}

theorem reads_take_inline {word : List Char} (h : ∀ c ∈ word, isInline c) :
    Reads (Reading.take word.length) ⟨word ++ rest, index, line, column⟩ word
      ⟨rest, index + word.length, line, column + word.length⟩ := by
  have hadvance := Cursor.advance_inline h rest index line column
  rw [← hadvance]
  have htake : (word ++ rest).take word.length = word := by simp
  exact congrArg (fun taken => Except.ok (taken, _)) htake

theorem reads_takeWhile_inline {p : Char → Bool} {word : List Char}
    (hword : ∀ c ∈ word, p c ∧ isInline c) (hrest : ∀ c ∈ rest.head?, p c = false) :
    Reads (Reading.takeWhile p) ⟨word ++ rest, index, line, column⟩ word
      ⟨rest, index + word.length, line, column + word.length⟩ := by
  have htake : (word ++ rest).takeWhile p = word := by
    rw [List.takeWhile_append_of_pos fun c hc => (hword c hc).1]
    cases rest with
    | nil => simp
    | cons c rest => simp [hrest c rfl]
  refine reads_get.bind ?_
  rw [htake]
  exact reads_take_inline fun c hc => (hword c hc).2

theorem reads_takeWhile_nil {p : Char → Bool} (hrest : ∀ c ∈ rest.head?, p c = false) :
    Reads (Reading.takeWhile p) ⟨rest, index, line, column⟩ [] ⟨rest, index, line, column⟩ :=
  reads_takeWhile_inline (List.forall_mem_nil _) hrest

theorem isInline_space : isInline ' ' = true := by
  decide

theorem forall_mem_spaces {p : Char → Prop} (h : p ' ') (width : Nat) : ∀ c ∈ spaces width, p c := by
  intro c hc
  rwa [List.eq_of_mem_replicate hc]

theorem isInline_spaces (width : Nat) : ∀ c ∈ spaces width, isInline c :=
  forall_mem_spaces isInline_space width

theorem length_spaces (width : Nat) : (spaces width).length = width :=
  List.length_replicate

theorem reads_takeSpaces (width : Nat) (hrest : ∀ c ∈ rest.head?, c ≠ ' ') :
    Reads (Reading.takeWhile (· == ' ')) ⟨spaces width ++ rest, index, line, column⟩ (spaces width)
      ⟨rest, index + width, line, column + width⟩ := by
  have hreads : Reads (Reading.takeWhile (· == ' ')) ⟨spaces width ++ rest, index, line, column⟩
      (spaces width) ⟨rest, index + (spaces width).length, line, column + (spaces width).length⟩ :=
    reads_takeWhile_inline (forall_mem_spaces ⟨rfl, isInline_space⟩ width)
      fun c hc => by simpa using hrest c hc
  rwa [length_spaces] at hreads

theorem reads_lineFeed : Reads Reading.lineBreak ⟨'\n' :: rest, index, line, column⟩ ['\n']
    ⟨rest, index + 1, line + 1, 0⟩ :=
  rfl

theorem reads_noBreak {start : Cursor} (h : isBreak start.peek = false) :
    Reads Reading.lineBreak start [] start := by
  refine reads_get.bind ?_
  dsimp only
  rw [h]
  exact .pure []

/-! ## Margins -/

/-- The first character of an entry: none at the end of the text, else a letter or an underscore. -/
def StartsEntry (text : List Char) : Prop :=
  ∀ c ∈ text.head?, c.isAlpha ∨ c = '_'

theorem not_endsLine_of_isInline {c : Char} (h : isInline c) : endsLine c = false := by
  have hbreak := not_isBreak_of_isInline h
  have hend : c ≠ endOfText := by
    rintro rfl
    revert h
    decide
  simp [endsLine, hend, hbreak]

theorem toNat_of_isAlpha {c : Char} (h : c.isAlpha) : 65 ≤ c.toNat ∧ c.toNat ≤ 122 := by
  rcases Bool.or_eq_true_iff.1 h with hupper | hlower
  · have hcode : 'A'.val ≤ c.val ∧ c.val ≤ 'Z'.val := of_decide_eq_true hupper
    rw [UInt32.le_iff_toNat_le, UInt32.le_iff_toNat_le] at hcode
    exact ⟨hcode.1, hcode.2.trans (by decide)⟩
  · obtain ⟨hlow, hhigh⟩ := Bool.and_eq_true_iff.1 hlower
    have hlow : 'a'.val ≤ c.val := of_decide_eq_true hlow
    have hhigh : c.val ≤ 'z'.val := of_decide_eq_true hhigh
    rw [UInt32.le_iff_toNat_le] at hlow hhigh
    exact ⟨le_trans (by decide) hlow, hhigh⟩

/-- Letters and underscores are no marks of any kind. -/
theorem StartsEntry.spec {text : List Char} (h : StartsEntry text) :
    ∀ c ∈ text.head?, c ≠ ' ' ∧ c ≠ '#' ∧ isBreak c = false ∧ c ≠ '-' ∧ c ≠ '.' := by
  intro c hc
  rcases h c hc with halpha | rfl
  · have hcode := toNat_of_isAlpha halpha
    have hbreak : isBreak c = false := by
      rw [← Bool.not_eq_true]
      intro hbreak
      simp only [isBreak, Bool.or_eq_true, beq_iff_eq] at hbreak
      rcases hbreak with (((rfl | rfl) | hbreak) | hbreak) | hbreak
      · exact absurd hcode (by decide)
      · exact absurd hcode (by decide)
      all_goals omega
    refine ⟨?_, ?_, hbreak, ?_, ?_⟩ <;> rintro rfl <;> exact absurd halpha (by decide)
  · decide

/-- Margins on one line after the other, and what follows on the last line. -/
def marginText (margin : Margin) (others : List Margin) (text : List Char) : List Char :=
  margin.chars ++ behind (others.map Margin.chars) ++ text

theorem marginText_nil (margin : Margin) (text : List Char) :
    marginText margin [] text = margin.chars ++ text := by
  simp [marginText, behind]

theorem marginText_cons (margin other : Margin) (others : List Margin) (text : List Char) :
    marginText margin (other :: others) text =
      margin.chars ++ '\n' :: marginText other others text := by
  simp [marginText, behind]

theorem Margin.IsWritten.isInline {margin : Margin} (h : margin.IsWritten) :
    ∀ c ∈ margin.chars, isInline c := by
  obtain ⟨width, comment⟩ := margin
  intro c hc
  rw [chars, List.mem_append] at hc
  rcases hc with hspace | hcomment
  · exact isInline_spaces width c hspace
  · cases comment with
    | none => cases hcomment
    | some text =>
      rcases List.mem_cons.1 hcomment with rfl | hmem
      · decide
      · exact h text rfl c hmem

/-- A margin is passed over up to what follows it on its line. -/
theorem reads_margin {α : Type} {margin : Margin} (hmargin : margin.IsWritten)
    (hrest : ∀ c ∈ rest.head?, endsLine c ∨ (margin.comment = none ∧ c ≠ ' ' ∧ c ≠ '#'))
    {next : Reading α} {value : α} {stop : Cursor}
    (hnext : Reads next ⟨rest, index + margin.chars.length, line, column + margin.chars.length⟩
      value stop) :
    Reads (do
      Reading.skipWhile (· == ' ')
      if (← Reading.peek) == '#' then Reading.skipWhile fun c => !endsLine c
      next) ⟨margin.chars ++ rest, index, line, column⟩ value stop := by
  obtain ⟨width, comment⟩ := margin
  cases comment with
  | none =>
    have hspace : ∀ c ∈ rest.head?, c ≠ ' ' ∧ c ≠ '#' := by
      intro c hc
      rcases hrest c hc with hend | ⟨-, hplain⟩
      · constructor <;> rintro rfl <;> revert hend <;> decide
      · exact hplain
    simp only [Margin.chars, List.append_nil, length_spaces] at hnext ⊢
    refine (reads_takeSpaces _ fun c hc => (hspace c hc).1).discard.bind (reads_peek.bind ?_)
    -- Without a comment the text must not go on with one, or it would be taken for it.
    have hmark : Cursor.peek ⟨rest, index + width, line, column + width⟩ ≠ '#' := by
      cases rest with
      | nil => exact (by decide : endOfText ≠ '#')
      | cons c rest => exact (hspace c rfl).2
    rw [if_neg (by simpa using hmark)]
    exact hnext
  | some text =>
    have hend : ∀ c ∈ rest.head?, endsLine c := by
      intro c hc
      rcases hrest c hc with hend | ⟨hnone, -⟩
      · exact hend
      · cases hnone
    simp only [Margin.chars, List.append_assoc, List.length_append, length_spaces] at hnext ⊢
    refine (reads_takeSpaces _ (by simp)).discard.bind (reads_peek.bind ?_)
    rw [if_pos (by rfl)]
    -- A comment goes on to the end of its line, with the mark in front.
    have hcomment : ∀ c ∈ '#' :: text, (fun c => !endsLine c) c ∧ isInline c := by
      have hinline := hmargin.isInline
      intro c hc
      have hc := hinline c (List.mem_append_right _ hc)
      exact ⟨by simp [not_endsLine_of_isInline hc], hc⟩
    refine (reads_takeWhile_inline hcomment fun c hc => by simp [hend c hc]).discard.bind ?_
    rwa [Nat.add_assoc, Nat.add_assoc]

/-- Spaces are passed over up to what follows them on their line. -/
theorem reads_skipSpaces (width : Nat) (hrest : ∀ c ∈ rest.head?, c ≠ ' ' ∧ c ≠ '#' ∧ isBreak c = false)
    {bound : Nat} (hbound : 0 < bound) (afterBreak : Bool) :
    Reads (skipToToken bound afterBreak) ⟨spaces width ++ rest, index, line, column⟩ afterBreak
      ⟨rest, index + width, line, column + width⟩ := by
  obtain ⟨bound, rfl⟩ : ∃ n, bound = n + 1 := ⟨bound - 1, by omega⟩
  have hmargin : Margin.IsWritten ⟨width, none⟩ := by
    rintro text ⟨⟩
  have hpeek : isBreak (Cursor.peek ⟨rest, index + width, line, column + width⟩) = false := by
    cases rest with
    | nil => exact (by decide : isBreak endOfText = false)
    | cons c rest => exact (hrest c rfl).2.2
  have hchars : Margin.chars ⟨width, none⟩ = spaces width := List.append_nil _
  rw [← hchars, skipToToken]
  refine reads_margin hmargin (fun c hc => .inr ⟨rfl, (hrest c hc).1, (hrest c hc).2.1⟩) ?_
  rw [hchars, length_spaces]
  exact (reads_noBreak hpeek).bind (.pure _)

/-- The last of some margins. -/
def lastMargin : Margin → List Margin → Margin
  | margin, [] => margin
  | _, other :: others => lastMargin other others

/-- Between a place and a text that starts in a column there are margins only. -/
structure Between (cursor : Cursor) (margin : Margin) (others : List Margin) (text : List Char)
    (column : Nat) : Prop where
  rest_eq : cursor.rest = marginText margin others text
  isWritten : margin.IsWritten
  areWritten : ∀ other ∈ others, other.IsWritten
  startsEntry : StartsEntry text
  isLast : text = [] ∨ (lastMargin margin others).comment = none
  column_eq : column = (if others = [] then cursor.column else 0) +
    (lastMargin margin others).chars.length

section

variable {cursor : Cursor} {margin other : Margin} {others : List Margin} {text : List Char}
  {column : Nat}

/-- What is to be read starts with a space, a comment or a line feed, or it is the text. -/
theorem Between.peek_space {width : Nat} {comment : Option (List Char)}
    (h : Between cursor ⟨width + 1, comment⟩ others text column) : cursor.peek = ' ' := by
  rw [Cursor.peek, h.rest_eq]
  rfl

theorem Between.peek_comment {comment : List Char}
    (h : Between cursor ⟨0, some comment⟩ others text column) : cursor.peek = '#' := by
  rw [Cursor.peek, h.rest_eq]
  rfl

theorem Between.peek_feed (h : Between cursor ⟨0, none⟩ (other :: others) text column) :
    cursor.peek = '\n' := by
  rw [Cursor.peek, h.rest_eq]
  rfl

theorem Between.length_le (h : Between cursor margin others text column) :
    text.length ≤ cursor.rest.length := by
  rw [h.rest_eq, marginText, List.length_append]
  exact Nat.le_add_left _ _

theorem Between.reached (h : Between cursor ⟨0, none⟩ [] text column) :
    cursor.rest = text ∧ cursor.column = column := by
  have hrest := h.rest_eq
  have hcolumn := h.column_eq
  rw [marginText_nil] at hrest
  exact ⟨hrest, hcolumn.symm⟩

/-- A text starts with none of the marks that are looked for in front of it. -/
theorem StartsEntry.peek (h : StartsEntry cursor.rest) :
    cursor.peek ≠ ' ' ∧ cursor.peek ≠ '#' ∧ isBreak cursor.peek = false ∧
      cursor.peek ≠ '-' ∧ cursor.peek ≠ '.' := by
  obtain ⟨rest, index, line, column⟩ := cursor
  cases rest with
  | nil => exact (by decide : endOfText ≠ ' ' ∧ endOfText ≠ '#' ∧ isBreak endOfText = false ∧
      endOfText ≠ '-' ∧ endOfText ≠ '.')
  | cons c rest => exact h.spec c rfl

theorem Between.peek_ne_space (h : Between cursor margin others text column)
    (hwidth : margin.width = 0) : cursor.peek ≠ ' ' := by
  obtain ⟨_, _ | comment⟩ := margin
  all_goals obtain rfl : _ = 0 := hwidth
  · cases others with
    | nil =>
      have hstart := h.startsEntry
      rw [← h.reached.1] at hstart
      exact hstart.peek.1
    | cons other others => simp [h.peek_feed]
  · simp [h.peek_comment]

theorem Cursor.atMark_of_peek_ne {cursor : Cursor} {mark : Char} (h : cursor.peek ≠ mark) :
    cursor.atMark mark = false := by
  obtain ⟨rest, index, line, column⟩ := cursor
  cases rest with
  | nil => rfl
  | cons c rest => simp [Cursor.atMark, show c ≠ mark from h]

/-- No document starts or ends in front of margins. -/
theorem Between.not_atDocumentMark (h : Between cursor margin others text column) :
    cursor.atDocumentMark = false := by
  have hpeek : cursor.peek ≠ '-' ∧ cursor.peek ≠ '.' := by
    obtain ⟨_ | width, _ | comment⟩ := margin
    · cases others with
      | nil =>
        have hstart := h.startsEntry
        rw [← h.reached.1] at hstart
        exact hstart.peek.2.2.2
      | cons other others => simp [h.peek_feed]
    · simp [h.peek_comment]
    · simp [h.peek_space]
    · simp [h.peek_space]
  rw [Cursor.atDocumentMark, Cursor.atMark_of_peek_ne hpeek.1, Cursor.atMark_of_peek_ne hpeek.2]
  rfl

/-- A space is passed over. -/
theorem Between.space {width : Nat} {comment : Option (List Char)}
    (h : Between cursor ⟨width + 1, comment⟩ others text column) :
    Between (cursor.advance 1) ⟨width, comment⟩ others text column ∧
      (cursor.advance 1).rest.length < cursor.rest.length := by
  obtain ⟨rest, index, line, start⟩ := cursor
  obtain ⟨hrest, hmargin, hothers, hstart, hlast, hcolumn⟩ := h
  have hcut : rest = ' ' :: marginText ⟨width, comment⟩ others text := hrest
  have hstep := Cursor.step_inline isInline_space (marginText ⟨width, comment⟩ others text) index
    line start
  subst hcut
  rw [Cursor.advance, Cursor.advance, hstep]
  refine ⟨⟨rfl, hmargin, hothers, hstart, ?_, ?_⟩, by simp⟩
  · cases others <;> exact hlast
  · cases others with
    | nil =>
      rw [hcolumn]
      simp only [lastMargin, Margin.chars, List.length_append, length_spaces, if_true]
      omega
    | cons other others => exact hcolumn

/-- A line feed is passed over. -/
theorem Between.feed (h : Between cursor ⟨0, none⟩ (other :: others) text column) :
    ∃ stop, Reads Reading.lineBreak cursor ['\n'] stop ∧ Between stop other others text column ∧
      stop.rest.length < cursor.rest.length := by
  obtain ⟨rest, index, line, start⟩ := cursor
  obtain ⟨hrest, -, hothers, hstart, hlast, hcolumn⟩ := h
  have hcut : rest = '\n' :: marginText other others text := by
    rw [show rest = _ from hrest, marginText_cons]
    rfl
  subst hcut
  rw [List.forall_mem_cons] at hothers
  refine ⟨⟨marginText other others text, index + 1, line + 1, 0⟩, reads_lineFeed,
    ⟨rfl, hothers.1, hothers.2, hstart, hlast, ?_⟩, by simp⟩
  simpa [lastMargin] using hcolumn

/-- **Margins are passed over** up to the text behind them. -/
theorem Between.reads_skipToToken (h : Between cursor margin others text column) {bound : Nat}
    (hbound : cursor.rest.length < bound) (afterBreak : Bool) :
    ∃ index line, Reads (skipToToken bound afterBreak) cursor (afterBreak || !others.isEmpty)
      ⟨text, index, line, column⟩ := by
  obtain ⟨bound, rfl⟩ : ∃ n, bound = n + 1 := ⟨bound - 1, by omega⟩
  obtain ⟨rest, index, line, start⟩ := cursor
  obtain ⟨rfl, hmargin, hothers, hstart, hlast, rfl⟩ := h
  -- Each margin but the last ends its line, so one round goes to the next.
  induction others generalizing margin index line start afterBreak bound with
  | nil =>
    refine ⟨index + margin.chars.length, line, ?_⟩
    rw [marginText_nil, skipToToken]
    refine reads_margin hmargin (fun c hc => .inr ?_) ?_
    · obtain ⟨hspace, hmark, -⟩ := hstart.spec c hc
      exact ⟨hlast.resolve_left (by rintro rfl; cases hc), hspace, hmark⟩
    · refine (reads_noBreak (StartsEntry.peek hstart).2.2.1).bind ?_
      rw [List.isEmpty_nil, if_pos rfl]
      simpa [lastMargin] using Reads.pure afterBreak
  | cons other others ih =>
    rw [marginText_cons, List.length_append, List.length_cons] at hbound
    obtain ⟨bound, rfl⟩ : ∃ n, bound = n + 1 := ⟨bound - 1, by omega⟩
    rw [List.forall_mem_cons] at hothers
    have hfewer : (marginText other others text).length < bound + 1 := by omega
    obtain ⟨index', line', hreads⟩ := ih true bound (index + margin.chars.length + 1) (line + 1) 0
      hothers.1 hothers.2 hlast hfewer
    refine ⟨index', line', ?_⟩
    rw [marginText_cons, skipToToken]
    refine reads_margin hmargin (fun c hc => .inl ?_) ?_
    · obtain rfl : '\n' = c := by simpa using hc
      decide
    · refine reads_lineFeed.bind ?_
      simpa [lastMargin] using hreads

end

end DartLayers.Yaml
