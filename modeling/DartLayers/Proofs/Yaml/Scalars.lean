import DartLayers.Proofs.Yaml.Passage

/-!
# DartLayers — reading scalars on one line

A plain scalar goes to the end of its last word. To find that end the reader looks at what follows
the word: spaces, the end of the line, and the lines behind it up to a comment or the next entry,
which is not indented deep enough to go on with the scalar. A quoted scalar goes to its closing
quote, and nothing behind it matters.

* **`reads_plainScalar`** — a plain scalar is read as its words.
* **`reads_key`** — a key is read up to its colon.
* **`reads_flowScalar`** — a quoted scalar is read as what its quotes hold.
-/

namespace DartLayers.Yaml

variable {rest : List Char} {index line column : Nat}

section

variable {cursor : Cursor} {margin other : Margin} {others : List Margin} {text : List Char}

/-- Blank lines inside a plain scalar end at a comment or where a text starts. -/
theorem Between.reads_plainBreaks {bound : Nat} (h : Between cursor margin others text column)
    (hbound : cursor.rest.length < bound) :
    ∃ breaks stop margin' others', Reads (Reading.plainBreaks bound) cursor (some breaks) stop ∧
      Between stop margin' others' text column ∧ stop.rest.length ≤ cursor.rest.length ∧
      (stop.peek = '#' ∨ stop.rest = text ∧ stop.column = column) := by
  induction bound generalizing cursor margin others with
  | zero => cases hbound
  | succ bound ih =>
    rw [Reading.plainBreaks]
    -- The reader is at a line feed or at the text, at a comment, or at a space.
    obtain ⟨_ | width, _ | comment⟩ := margin
    · cases others with
      | nil =>
        refine ⟨[], cursor, ⟨0, none⟩, [], reads_peek.bind ?_, h, Nat.le_refl _, .inr h.reached⟩
        have hstart := h.startsEntry
        rw [← h.reached.1] at hstart
        obtain ⟨hspace, -, hbreak, -⟩ := hstart.peek
        rw [if_neg (by simpa using hspace), if_neg (by simp [hbreak])]
        exact .pure _
      | cons other others =>
        obtain ⟨next, hfeed, hnext, hless⟩ := h.feed
        obtain ⟨breaks, stop, margin', others', hreads, hstop, hlength, hend⟩ := ih hnext (by omega)
        refine ⟨['\n'] ++ breaks, stop, margin', others', reads_peek.bind ?_, hstop, by omega, hend⟩
        rw [h.peek_feed]
        refine hfeed.bind (reads_get.bind ?_)
        rw [hnext.not_atDocumentMark]
        exact hreads.map _
    · refine ⟨[], cursor, _, others, reads_peek.bind ?_, h, Nat.le_refl _, .inl h.peek_comment⟩
      rw [h.peek_comment]
      exact .pure _
    all_goals
      obtain ⟨hspace, hless⟩ := h.space
      obtain ⟨breaks, stop, margin', others', hreads, hstop, hlength, hend⟩ := ih hspace (by omega)
      refine ⟨breaks, stop, margin', others', reads_peek.bind ?_, hstop, by omega, hend⟩
      rw [h.peek_space]
      exact (reads_advance 1).bind hreads

/-- The spaces of a margin are taken together. -/
theorem Between.reads_takeSpaces (h : Between cursor margin others text column) :
    ∃ stop, Reads (Reading.takeWhile (· == ' ')) cursor (spaces margin.width) stop ∧
      Between stop ⟨0, margin.comment⟩ others text column ∧
      stop.rest.length ≤ cursor.rest.length := by
  obtain ⟨rest, index, line, start⟩ := cursor
  obtain ⟨width, comment⟩ := margin
  obtain ⟨hrest, hmargin, hothers, hstart, hlast, hcolumn⟩ := h
  have hcut : rest = spaces width ++ marginText ⟨0, comment⟩ others text := by
    rw [show rest = _ from hrest]
    simp [marginText, Margin.chars, spaces]
  subst hcut
  have hstop : Between ⟨marginText ⟨0, comment⟩ others text, index + width, line, start + width⟩
      ⟨0, comment⟩ others text column := by
    refine ⟨rfl, hmargin, hothers, hstart, ?_, ?_⟩
    · cases others <;> exact hlast
    · cases others with
      | nil =>
        rw [hcolumn]
        simp only [lastMargin, Margin.chars, List.length_append, length_spaces, if_true]
        omega
      | cons other others => exact hcolumn
  refine ⟨_, Yaml.reads_takeSpaces _ fun c hc => ?_, hstop, by simp⟩
  have hpeek := hstop.peek_ne_space rfl
  obtain ⟨rest, hrest⟩ := List.head?_eq_some_iff.1 hc
  rwa [Cursor.peek, hrest] at hpeek

/-- Spaces behind a word of a plain scalar, and the lines behind it, are passed over up to a comment or
the start of a text. -/
theorem Between.reads_plainSpaces (h : Between cursor margin others text column) :
    ∃ taken broken stop margin' others', Reads Reading.plainSpaces cursor (taken, broken) stop ∧
      Between stop margin' others' text column ∧ (broken || !others'.isEmpty) = !others.isEmpty ∧
      stop.rest.length ≤ cursor.rest.length ∧
      (stop.peek = '#' ∨ stop.rest = text ∧ stop.column = column) := by
  obtain ⟨middle, hspaces, hmiddle, hlength⟩ := h.reads_takeSpaces
  -- Behind the spaces there is a comment, the end of the margins, or a line feed with more of them.
  cases hcomment : margin.comment with
  | some comment =>
    rw [hcomment] at hmiddle
    refine ⟨spaces margin.width, false, middle, _, others, hspaces.bind (reads_peek.bind ?_), hmiddle,
      by simp, hlength, .inl hmiddle.peek_comment⟩
    rw [hmiddle.peek_comment]
    exact .pure _
  | none =>
    rw [hcomment] at hmiddle
    cases others with
    | nil =>
      refine ⟨spaces margin.width, false, middle, _, [], hspaces.bind (reads_peek.bind ?_), hmiddle,
        rfl, hlength, .inr hmiddle.reached⟩
      have hstart := hmiddle.startsEntry
      rw [← hmiddle.reached.1] at hstart
      rw [hstart.peek.2.2.1]
      exact .pure _
    | cons other others =>
      obtain ⟨next, hfeed, hnext, hless⟩ := hmiddle.feed
      obtain ⟨breaks, stop, margin', others', hreads, hstop, hshort, hend⟩ :=
        hnext.reads_plainBreaks (Nat.lt_succ_self _)
      refine ⟨foldedBreaks ['\n'] breaks, true, stop, margin', others',
        hspaces.bind (reads_peek.bind ?_), hstop, by simp, by omega, hend⟩
      rw [hmiddle.peek_feed]
      refine hfeed.bind (reads_get.bind ?_)
      rw [hnext.not_atDocumentMark]
      exact reads_get.bind (hreads.bind (.pure _))

end

/-! ## Plain scalars -/

theorem endsWord_of_isInline {c : Char} (h : isInline c ∧ isBlank c = false) : endsWord c = false := by
  rw [endsWord, h.2, not_endsLine_of_isInline h.1]
  rfl

/-- A plain scalar does not go over a blank or the end of a line. -/
theorem plainLength_of_endsWord (hrest : endsWord (rest.headD endOfText) = true) :
    plainLength false rest = 0 := by
  cases rest with
  | nil => rfl
  | cons c rest =>
    rw [plainLength, show endsWord c = true from hrest]
    rfl

/-- A plain scalar does not go over the colon behind a key. -/
theorem plainLength_colon (hrest : endsWord (rest.headD endOfText) = true) :
    plainLength false (':' :: rest) = 0 := by
  rw [plainLength, endsKey, hrest]
  rfl

/-- A word goes to where a plain scalar cannot go on. -/
theorem plainLength_append {word : List Char} (hword : ∀ c ∈ word, isInline c ∧ isBlank c = false)
    (hlast : word.getLast? ≠ some ':') (hrest : plainLength false rest = 0) :
    plainLength false (word ++ rest) = word.length := by
  induction word with
  | nil => exact hrest
  | cons c word ih =>
    rw [List.forall_mem_cons] at hword
    have hstays : (c == ':' && endsKey false ((word ++ rest).headD endOfText)) = false := by
      cases word with
      | nil => simp [show c ≠ ':' by simpa using hlast]
      | cons d word => simp [endsKey, endsWord_of_isInline (hword.2 d List.mem_cons_self)]
    rw [List.cons_append, plainLength, endsWord_of_isInline hword.1, hstays]
    have hlast' : word.getLast? ≠ some ':' := by
      cases word with
      | nil => simp
      | cons d word => rwa [List.getLast?_cons_cons] at hlast
    simp [ih hword.2 hlast']

/-- A tail ends the word in front of it. -/
theorem Between.endsWord_peek {cursor : Cursor} {margin : Margin} {others : List Margin}
    {text : List Char} {target : Nat} (h : Between cursor margin others text target)
    (htail : margin.IsTail) (hbreak : text ≠ [] → others ≠ []) : endsWord cursor.peek = true := by
  obtain ⟨_ | width, _ | comment⟩ := margin
  · cases others with
    | nil =>
      have htext : text = [] := not_not.1 fun hne => hbreak hne rfl
      rw [Cursor.peek, h.reached.1, htext]
      rfl
    | cons other others =>
      rw [h.peek_feed]
      rfl
  · exact absurd (htail.2 rfl) (lt_irrefl 0)
  all_goals
    rw [h.peek_space]
    rfl

theorem wordsBehind_cons (word : List Char) (words : List (List Char)) :
    wordsBehind (word :: words) = ' ' :: (word ++ wordsBehind words) :=
  rfl

theorem IsWord.headD {word : List Char} (h : IsWord word) (behind : List Char) :
    isInline ((word ++ behind).headD endOfText) ∧ (word ++ behind).headD endOfText ≠ ' ' ∧
      (word ++ behind).headD endOfText ≠ '#' := by
  obtain ⟨hne, hchars, hmark, -⟩ := h
  cases word with
  | nil => exact absurd rfl hne
  | cons c word =>
    obtain ⟨hinline, hblank⟩ := hchars c List.mem_cons_self
    refine ⟨hinline, ?_, by simpa using hmark⟩
    rintro rfl
    cases hblank

/-- One space between two words of a plain scalar is a space. -/
theorem reads_plainSpaces_word {word behind : List Char} (hword : IsWord word) :
    Reads Reading.plainSpaces ⟨' ' :: (word ++ behind), index, line, column⟩ ([' '], false)
      ⟨word ++ behind, index + 1, line, column + 1⟩ := by
  have hfirst := hword.headD behind
  have hspace : ∀ c ∈ (word ++ behind).head?, c ≠ ' ' := by
    intro c hc
    rw [List.headD_eq_head?_getD, Option.mem_def.1 hc] at hfirst
    exact hfirst.2.1
  refine (reads_takeSpaces 1 hspace).bind (reads_peek.bind ?_)
  have hbreak : isBreak (Cursor.peek ⟨word ++ behind, index + 1, line, column + 1⟩) = false :=
    not_isBreak_of_isInline hfirst.1
  rw [if_neg (by rw [hbreak]; exact Bool.false_ne_true)]
  exact .pure _

/-- A word of a plain scalar is taken as a whole. -/
theorem reads_takeWord {word behind : List Char} (hword : IsWord word)
    (hbehind : plainLength false behind = 0) {α : Type} {done : α}
    {next : List Char → Reading α} {result : α} {stop : Cursor}
    (hnext : Reads (next word) ⟨behind, index + word.length, line, column + word.length⟩ result stop) :
    Reads (do
      let cursor ← get
      let length := if cursor.peek == '#' then 0 else plainLength false cursor.rest
      if length == 0 then return done
      else
        let text ← Reading.take length
        next text) ⟨word ++ behind, index, line, column⟩ result stop := by
  have hfirst := hword.headD behind
  obtain ⟨hne, hchars, -, hlast⟩ := hword
  refine reads_get.bind ?_
  have hmark : (Cursor.peek ⟨word ++ behind, index, line, column⟩ == '#') = false := by
    simpa [Cursor.peek] using hfirst.2.2
  simp only [hmark, plainLength_append hchars hlast hbehind]
  rw [if_neg (by simpa using hne)]
  exact (reads_take_inline fun c hc => (hchars c hc).1).bind hnext

/-- At the end of the text a plain scalar has no more words. -/
theorem reads_plainWords_end {cursor : Cursor} (hrest : cursor.rest = []) {bound : Nat}
    (hbound : 0 < bound) (indent : Int) (taken : List Char) (afterBreak : Bool) :
    Reads (Reading.plainWords false indent bound taken afterBreak) cursor ([], afterBreak) cursor := by
  obtain ⟨bound, rfl⟩ : ∃ n, bound = n + 1 := ⟨bound - 1, by omega⟩
  rw [Reading.plainWords]
  refine reads_get.bind ?_
  rw [hrest, plainLength, if_pos (by simp)]
  exact .pure _

/-- **A plain scalar** is read up to the end of its last word, and on to a comment or to the start of
the text behind it, if that is not indented as deep as the scalar has to be. -/
theorem reads_plainWords {word : List Char} {words : List (List Char)} (hword : IsWord word)
    (hwords : ∀ other ∈ words, IsWord other) {margin : Margin} {others : List Margin}
    {text : List Char} {target : Nat} {indent : Int} {bound : Nat} (hbound : words.length + 1 < bound)
    (htail : margin.IsTail) (hbreak : text ≠ [] → others ≠ []) (hcolumn : indent ≤ column)
    (htarget : text ≠ [] → (target : Int) < indent)
    (h : Between ⟨marginText margin others text, index + (word ++ wordsBehind words).length, line,
      column + (word ++ wordsBehind words).length⟩ margin others text target)
    (taken : List Char) (afterBreak : Bool) :
    ∃ broken stop margin' others', Reads (Reading.plainWords false indent bound taken afterBreak)
        ⟨word ++ wordsBehind words ++ marginText margin others text, index, line, column⟩
        (taken ++ word ++ wordsBehind words, broken) stop ∧
      Between stop margin' others' text target ∧ (broken || !others'.isEmpty) = !others.isEmpty ∧
      stop.rest.length ≤ (marginText margin others text).length := by
  obtain ⟨bound, rfl⟩ : ∃ n, bound = n + 1 := ⟨bound - 1, by omega⟩
  -- Each round takes a word and the gap behind it, so the words are what the scanner goes along.
  induction words generalizing word index column taken afterBreak bound with
  | nil =>
    rw [wordsBehind, List.flatMap_nil, List.append_nil] at h ⊢
    obtain ⟨spaces, broken, stop, margin', others', hspaces, hstop, hbroken, hlength, hend⟩ :=
      h.reads_plainSpaces
    refine ⟨broken, stop, margin', others', ?_, hstop, hbroken, hlength⟩
    rw [Reading.plainWords, List.append_nil]
    have hends := plainLength_of_endsWord (h.endsWord_peek htail hbreak)
    refine reads_takeWord hword hends (hspaces.bind (reads_get.bind ?_))
    rcases hend with hmark | ⟨hrest, hstopped⟩
    · rw [if_pos (by simp [hmark])]
      exact .pure _
    · rcases eq_or_ne text [] with rfl | htext
      · -- At the end of the text nothing is left to be read, however deep the end is indented.
        split
        · exact .pure _
        · have hnone := reads_plainWords_end hrest (by simpa using hbound) indent spaces broken
          refine hnone.bind ?_
          dsimp only
          rw [List.append_nil]
          exact .pure _
      · rw [if_pos (by simp [hstopped, htarget htext])]
        exact .pure _
  | cons next words ih =>
    obtain ⟨bound, rfl⟩ : ∃ n, bound = n + 1 := ⟨bound - 1, by simp at hbound; omega⟩
    rw [List.forall_mem_cons] at hwords
    rw [wordsBehind_cons] at h ⊢
    have hlength : (word ++ ' ' :: (next ++ wordsBehind words)).length =
        word.length + 1 + (next ++ wordsBehind words).length := by simp; omega
    rw [hlength, ← Nat.add_assoc, ← Nat.add_assoc, ← Nat.add_assoc, ← Nat.add_assoc] at h
    obtain ⟨broken, stop, margin', others', hreads, hstop, hbroken⟩ :=
      ih hwords.1 hwords.2 (by push_cast; omega) h [' '] false bound (by simpa using hbound)
    refine ⟨broken, stop, margin', others', ?_, hstop, hbroken⟩
    have hrest : word ++ ' ' :: (next ++ wordsBehind words) ++ marginText margin others text =
        word ++ ' ' :: (next ++ (wordsBehind words ++ marginText margin others text)) := by simp
    have hends : plainLength false (' ' :: (next ++ (wordsBehind words ++
        marginText margin others text))) = 0 := plainLength_of_endsWord rfl
    rw [hrest, Reading.plainWords]
    refine reads_takeWord hword hends ?_
    refine (reads_plainSpaces_word hwords.1).bind (reads_get.bind ?_)
    have hfirst := hwords.1.headD (wordsBehind words ++ marginText margin others text)
    have hmark : Cursor.peek ⟨next ++ (wordsBehind words ++ marginText margin others text),
        index + word.length + 1, line, column + word.length + 1⟩ ≠ '#' := hfirst.2.2
    have hdeep : indent ≤ ((column + word.length + 1 : Nat) : Int) := by push_cast; omega
    rw [if_neg (by simpa [hmark] using hdeep)]
    rw [List.append_assoc] at hreads
    refine hreads.bind ?_
    have htaken : taken ++ word ++ ' ' :: (next ++ wordsBehind words) =
        taken ++ word ++ ([' '] ++ next ++ wordsBehind words) := by simp
    rw [htaken]
    exact .pure _

theorem reads_plainScalar {word : List Char} {words : List (List Char)} (hword : IsWord word)
    (hwords : ∀ other ∈ words, IsWord other) {margin : Margin} {others : List Margin}
    {text : List Char} {target : Nat} {indent : Int} (htail : margin.IsTail)
    (hbreak : text ≠ [] → others ≠ []) (hcolumn : indent < column)
    (htarget : text ≠ [] → (target : Int) ≤ indent)
    (h : Between ⟨marginText margin others text, index + (word ++ wordsBehind words).length, line,
      column + (word ++ wordsBehind words).length⟩ margin others text target) :
    ∃ broken stop margin' others', Reads (Reading.plainScalar false indent)
        ⟨word ++ wordsBehind words ++ marginText margin others text, index, line, column⟩
        (word ++ wordsBehind words, broken) stop ∧
      Between stop margin' others' text target ∧ (broken || !others'.isEmpty) = !others.isEmpty ∧
      stop.rest.length ≤ (marginText margin others text).length := by
  have hfew : words.length ≤ (wordsBehind words).length := by
    clear h
    induction words with
    | nil => exact Nat.zero_le _
    | cons next words ih =>
      have := ih fun other hother => hwords other (List.mem_cons_of_mem _ hother)
      simp only [wordsBehind_cons, List.length_cons, List.length_append]
      omega
  have hbound : words.length + 1 < Cursor.bound
      ⟨word ++ wordsBehind words ++ marginText margin others text, index, line, column⟩ := by
    have := List.length_pos_iff.2 hword.1
    simp only [Cursor.bound, List.length_append]
    omega
  have hdeep : indent + 1 ≤ column := by omega
  obtain ⟨broken, stop, margin', others', hreads, hstop⟩ := reads_plainWords hword hwords hbound htail
    hbreak hdeep (fun htext => by have := htarget htext; omega) h [] false
  exact ⟨broken, stop, margin', others', reads_get.bind hreads, hstop⟩

theorem IsKey.isWord {key : List Char} (h : IsKey key) : IsWord key := by
  refine ⟨h.ne_nil, fun c hc => ⟨(h.chars c hc).1, (h.chars c hc).2.1⟩, fun hmark => ?_,
    fun hcolon => ?_⟩
  · exact (StartsEntry.spec h.starts '#' hmark).2.1 rfl
  · exact (h.chars ':' (List.mem_of_getLast? hcolon)).2.2 rfl

/-- **A key** is read up to its colon. -/
theorem reads_key {key behind : List Char} (hkey : IsKey key)
    (hbehind : endsWord (behind.headD endOfText) = true) (indent : Int) :
    Reads (Reading.plainScalar false indent) ⟨key ++ ':' :: behind, index, line, column⟩ (key, false)
      ⟨':' :: behind, index + key.length, line, column + key.length⟩ := by
  refine reads_get.bind ?_
  rw [Cursor.bound, Reading.plainWords]
  refine reads_takeWord hkey.isWord (plainLength_colon hbehind) ?_
  have hspaces : Reads Reading.plainSpaces
      ⟨':' :: behind, index + key.length, line, column + key.length⟩ ([], false)
      ⟨':' :: behind, index + key.length, line, column + key.length⟩ :=
    (reads_takeWhile_nil (by simp)).bind (reads_peek.bind (.pure _))
  exact hspaces.bind (reads_get.bind (.pure _))

/-! ## Quoted scalars -/

/-- Characters between quotes are no ends of the text and no breaks. -/
theorem isQuotable_spec {c : Char} (h : isQuotable c) :
    isInline c ∧ c ≠ '\'' ∧ c ≠ '"' ∧ c ≠ '\\' := by
  simpa [isQuotable, and_assoc] using h

theorem isBlank_iff {c : Char} : isBlank c = true ↔ c = ' ' ∨ c = '\t' := by
  simp [isBlank]

/-- What ends a word between quotes: a blank, or the closing quote, which no other quote follows. -/
def EndsQuoted (quote : Char) (rest : List Char) : Prop :=
  isBlank (rest.headD endOfText) = true ∨
    ∃ behind, rest = quote :: behind ∧ endsWord (behind.headD endOfText) = true

/-- A word between quotes goes to the next blank or to the closing quote. -/
theorem reads_flowText {quote : Char} (hquote : quote = '\'' ∨ quote = '"') {word : List Char}
    (hword : ∀ c ∈ word, isQuotable c ∧ isBlank c = false) (hrest : EndsQuoted quote rest)
    {bound : Nat} (hbound : 0 < bound) :
    Reads (Reading.flowText (quote == '"') bound) ⟨word ++ rest, index, line, column⟩ word
      ⟨rest, index + word.length, line, column + word.length⟩ := by
  obtain ⟨bound, rfl⟩ : ∃ n, bound = n + 1 := ⟨bound - 1, by omega⟩
  rw [Reading.flowText]
  refine (reads_takeWhile_inline (fun c hc => ?_) fun c hc => ?_).bind (reads_peek.bind ?_)
  · obtain ⟨hquotable, hblank⟩ := hword c hc
    obtain ⟨hinline, hsingle, hdouble, hescape⟩ := isQuotable_spec hquotable
    simp [endsWord_of_isInline ⟨hinline, hblank⟩, hsingle, hdouble, hescape, hinline]
  · rcases hrest with hblank | ⟨behind, rfl, -⟩
    · rw [List.headD_eq_head?_getD, Option.mem_def.1 hc, Option.getD_some] at hblank
      simp [endsWord, hblank]
    · obtain rfl : quote = c := by simpa using hc
      rcases hquote with rfl | rfl <;> rfl
  · obtain ⟨c, hpeek, hends⟩ : ∃ c,
        Cursor.peek ⟨rest, index + word.length, line, column + word.length⟩ = c ∧
          ((c = ' ' ∨ c = '\t') ∨ c = quote ∧ Cursor.peekAt ⟨rest, index + word.length, line,
            column + word.length⟩ 1 ≠ '\'') := by
      refine ⟨_, rfl, ?_⟩
      rcases hrest with hblank | ⟨behind, rfl, hbehind⟩
      · exact .inl (isBlank_iff.1 hblank)
      · refine .inr ⟨rfl, fun hother => ?_⟩
        have hfirst : behind.headD endOfText = '\'' := by
          cases behind <;> exact hother
        rw [hfirst] at hbehind
        exact absurd hbehind (by decide)
    rw [hpeek]
    refine reads_get.bind ?_
    -- What ends the word is neither a quote that is doubled, nor the other quote, nor an escape.
    have hstops : ¬ (!(quote == '"') && c == '\'' &&
          Cursor.peekAt ⟨rest, index + word.length, line, column + word.length⟩ 1 == '\'') = true ∧
        ¬ ((quote == '"' && c == '\'') || (!(quote == '"') && (c == '"' || c == '\\'))) = true ∧
        ¬ (quote == '"' && c == '\\') = true := by
      rcases hends with hblank | ⟨rfl, hother⟩
      · rcases hblank with rfl | rfl <;> simp
      · rcases hquote with rfl | rfl <;> simp [hother]
    rw [if_neg hstops.1, if_neg hstops.2.1, if_neg hstops.2.2]
    exact .pure _

/-- What follows a word between quotes ends it. -/
theorem endsQuoted_append {quote : Char} {more behind : List Char}
    (hmore : ∀ c ∈ more.head?, (!isBlank c) = false) (hbehind : endsWord (behind.headD endOfText) = true) :
    EndsQuoted quote (more ++ quote :: behind) := by
  cases more with
  | nil => exact .inr ⟨behind, rfl, hbehind⟩
  | cons c more => exact .inl (by simpa using hmore c rfl)

/-- Blanks between quotes are taken together. -/
theorem reads_flowSpaces {blanks : List Char} (hblanks : ∀ c ∈ blanks, isBlank c = true)
    (hrest : ∀ c ∈ rest.head?, isInline c ∧ isBlank c = false) (hne : rest ≠ []) :
    Reads Reading.flowSpaces ⟨blanks ++ rest, index, line, column⟩ blanks
      ⟨rest, index + blanks.length, line, column + blanks.length⟩ := by
  obtain ⟨c, others, rfl⟩ := List.exists_cons_of_ne_nil hne
  obtain ⟨hinline, hblank⟩ := hrest c rfl
  refine (reads_takeWhile_inline (fun d hd => ⟨hblanks d hd, ?_⟩) fun d hd => (hrest d hd).2).bind
    (reads_peek.bind ?_)
  · rcases isBlank_iff.1 (hblanks d hd) with rfl | rfl <;> decide
  · refine (reads_require ?_).bind ?_
    · have hend := not_endsLine_of_isInline hinline
      simp only [endsLine, Bool.or_eq_false_iff] at hend
      simpa [Cursor.peek] using hend.1
    · rw [if_neg (by simp [Cursor.peek, not_isBreak_of_isInline hinline])]
      exact .pure _

/-- Characters of a class in front of a text, and one that is not of it behind them. -/
theorem exists_span (p : Char → Bool) (text : List Char) : ∃ front back, text = front ++ back ∧
    (∀ c ∈ front, p c = true) ∧ ∀ c ∈ back.head?, p c = false := by
  refine ⟨text.takeWhile p, text.dropWhile p, List.takeWhile_append_dropWhile.symm,
    fun c hc => List.mem_takeWhile_imp hc, fun c hc => ?_⟩
  have hstart := List.head?_dropWhile_not p text
  rw [Option.mem_def.1 hc] at hstart
  simpa using hstart

/-- The words between quotes, with the blanks between them, go to the closing quote. -/
theorem reads_flowWords {quote : Char} (hquote : quote = '\'' ∨ quote = '"') {text behind : List Char}
    (htext : ∀ c ∈ text, isQuotable c) (hstart : ∀ c ∈ text.head?, isBlank c = true)
    (hbehind : endsWord (behind.headD endOfText) = true) {bound : Nat} (hbound : text.length < bound) :
    Reads (Reading.flowWords quote bound) ⟨text ++ quote :: behind, index, line, column⟩ text
      ⟨quote :: behind, index + text.length, line, column + text.length⟩ := by
  -- The scanner goes along pairs of blanks and a word; its bound says how many it may take.
  induction bound generalizing text index column with
  | zero => cases hbound
  | succ bound ih =>
    have hmarks : isInline quote = true ∧ isBlank quote = false ∧ quote ≠ ' ' ∧ quote ≠ '\t' := by
      rcases hquote with rfl | rfl <;> decide
    rw [Reading.flowWords]
    refine reads_peek.bind ?_
    obtain ⟨blanks, words, rfl, hblanks, hwords⟩ := exists_span isBlank text
    cases blanks with
    | nil =>
      obtain rfl : words = [] := by
        cases words with
        | nil => rfl
        | cons c words => exact absurd (hstart c rfl) (by simp [hwords c rfl])
      rw [if_pos (by simp [Cursor.peek])]
      exact .pure _
    | cons c blanks =>
      obtain ⟨word, more, rfl, hword, hmore⟩ := exists_span (fun c => !isBlank c) words
      simp only [List.forall_mem_append] at htext
      have hpeek : (Cursor.peek ⟨c :: blanks ++ (word ++ more) ++ quote :: behind, index, line,
          column⟩ == quote) = false := by
        rcases isBlank_iff.1 (hblanks c List.mem_cons_self) with rfl | rfl <;>
          rcases hquote with rfl | rfl <;> rfl
      rw [hpeek, if_neg Bool.false_ne_true]
      -- Behind blanks there is a character of a word or the closing quote, so no line break is
      -- folded.
      have hnext : ∀ d ∈ (word ++ more ++ quote :: behind).head?, isInline d ∧ isBlank d = false := by
        cases hcut : word ++ more with
        | nil =>
          intro d hd
          obtain rfl : quote = d := by simpa using hd
          exact ⟨hmarks.1, hmarks.2.1⟩
        | cons e others =>
          intro d hd
          obtain rfl : e = d := by simpa using hd
          rw [hcut] at hwords
          have hmem : e ∈ word ++ more := by simp [hcut]
          have hquotable := (List.mem_append.1 hmem).elim (htext.2.1 e) (htext.2.2 e)
          exact ⟨(isQuotable_spec hquotable).1, hwords e rfl⟩
      rw [List.append_assoc (c :: blanks)]
      refine (reads_flowSpaces hblanks hnext (by simp)).bind (reads_get.bind ?_)
      rw [List.append_assoc word]
      have hwhole : ∀ c ∈ word, isQuotable c = true ∧ isBlank c = false := fun c hc =>
        ⟨htext.2.1 c hc, by simpa using hword c hc⟩
      refine (reads_flowText hquote hwhole (endsQuoted_append hmore hbehind)
        (Nat.succ_pos _)).bind ?_
      simp only [List.length_append, List.length_cons] at hbound
      refine (ih htext.2.2 (by simpa using hmore) (by omega)).bind ?_
      simp only [List.length_append, ← List.append_assoc, ← Nat.add_assoc]
      exact .pure _

/-- **A quoted scalar** is read up to its closing quote. -/
theorem reads_flowScalar {quote : Char} (hquote : quote = '\'' ∨ quote = '"') {text behind : List Char}
    (htext : ∀ c ∈ text, isQuotable c) (hbehind : endsWord (behind.headD endOfText) = true)
    (index line column : Nat) : Reads (Reading.flowScalar quote)
      ⟨quote :: (text ++ quote :: behind), index, line, column⟩ text
      ⟨behind, index + (text.length + 2), line, column + (text.length + 2)⟩ := by
  have hinline : isInline quote = true := by
    rcases hquote with rfl | rfl <;> decide
  obtain ⟨word, more, rfl, hword, hmore⟩ := exists_span (fun c => !isBlank c) text
  rw [List.forall_mem_append] at htext
  have hwhole : ∀ c ∈ word, isQuotable c = true ∧ isBlank c = false := fun c hc =>
    ⟨htext.1 c hc, by simpa using hword c hc⟩
  refine (reads_advance 1).bind (reads_get.bind ?_)
  rw [Cursor.advance, Cursor.advance, Cursor.step_inline hinline, List.append_assoc word]
  refine (reads_flowText hquote hwhole (endsQuoted_append hmore hbehind) (Nat.succ_pos _)).bind
    (reads_get.bind ?_)
  refine (reads_flowWords hquote htext.2 (by simpa using hmore) hbehind ?_).bind
    ((reads_advance 1).bind ?_)
  · simp only [Cursor.bound, List.length_append, List.length_cons]
    omega
  · rw [Cursor.advance, Cursor.advance, Cursor.step_inline hinline]
    have hplace : ∀ start, start + 1 + word.length + more.length + 1 =
        start + ((word ++ more).length + 2) := fun start => by
      rw [List.length_append]
      omega
    rw [hplace, hplace]
    exact .pure _

/-- The first character of a scalar is no blank, no mark of a comment and no break. -/
theorem Leaf.IsWritten.exists_cons {leaf : Leaf} (h : leaf.IsWritten) :
    ∃ c rest, leaf.chars = c :: rest ∧ isBlank c = false ∧ c ≠ '#' ∧ isBreak c = false := by
  cases leaf with
  | plain word others =>
    obtain ⟨⟨hne, hchars, hmark, -⟩, -, -⟩ := h
    cases word with
    | nil => exact absurd rfl hne
    | cons c word =>
      obtain ⟨hinline, hblank⟩ := hchars c List.mem_cons_self
      exact ⟨c, _, rfl, hblank, by simpa using hmark, not_isBreak_of_isInline hinline⟩
  | quoted quote text =>
    refine ⟨quote, _, rfl, ?_⟩
    rcases h.1 with rfl | rfl <;> decide

end DartLayers.Yaml
