import DartLayers.Proofs.Endpoint.Constant

/-!
# DartLayers — where words end

The words of a text are what is left when it is cut at every separator and at every boundary: between
a small letter or a digit and a capital, and between a capital and a capital that a small letter
follows. Nothing but separators is lost, no boundary is left inside a word, and nothing else is cut. So
the text is laid out as its words, each with the separators behind it, and this is its only layout.

* **`IsBoundary`** — where a word ends between two texts that meet.
* **`IsBoundarySplit`** — pieces that a text is cut into at its separators and boundaries.
* **`exists_of_words_eq_cons`** — the first word, and what stands around it.
* **`words_append`** — a word at the start of a text is its first word.
* **`splitWords_eq_iff`** — the words of a text are its only split.
-/

namespace DartLayers.Text

/-! ## Boundaries -/

/-- Where a word ends between two texts that meet: a small letter or a digit in front of a capital, or
a capital in front of a capital and a small letter. -/
inductive IsBoundary : List Char → List Char → Prop
  | capital {front rest : List Char} {c d : Char} (hc : c.isLower ∨ c.isDigit) (hd : d.isUpper) :
      IsBoundary (front ++ [c]) (d :: rest)
  | capitalized {front rest : List Char} {c d e : Char} (hc : c.isUpper) (hd : d.isUpper)
      (he : e.isLower) : IsBoundary (front ++ [c]) (d :: e :: rest)

/-- A boundary is told by the last character before it and the first two behind it. -/
theorem isBoundary_iff {front rest : List Char} {c d : Char} :
    IsBoundary (front ++ [c]) (d :: rest) ↔ endsWordBetween c d rest.head? = true := by
  constructor
  · intro h
    generalize hfront : front ++ [c] = before at h
    generalize hback : d :: rest = after at h
    cases h with
    | capital hc hd =>
      obtain ⟨-, rfl⟩ := List.append_singleton_inj.1 hfront
      cases hback
      simp [endsWordBetween, hc, hd]
    | capitalized hc hd he =>
      obtain ⟨-, rfl⟩ := List.append_singleton_inj.1 hfront
      cases hback
      simp [endsWordBetween, hc, hd, he]
  · intro h
    simp only [endsWordBetween, Bool.or_eq_true, Bool.and_eq_true] at h
    rcases h with ⟨hc, hd⟩ | ⟨⟨hc, hd⟩, he⟩
    · exact .capital hc hd
    · cases rest with
      | nil => cases he
      | cons e rest => exact .capitalized hc hd he

/-- There is text on both sides of a boundary. -/
theorem IsBoundary.ne_nil {front back : List Char} (h : IsBoundary front back) :
    front ≠ [] ∧ back ≠ [] := by
  cases h <;> simp

/-- There is a capital behind a boundary. -/
theorem IsBoundary.isUpper {front rest : List Char} {d : Char} (h : IsBoundary front (d :: rest)) :
    d.isUpper := by
  cases h <;> assumption

/-- What stands further in front does not decide about a boundary. -/
theorem isBoundary_cons_iff {front back : List Char} (hne : front ≠ []) (c : Char) :
    IsBoundary (c :: front) back ↔ IsBoundary front back := by
  obtain ⟨before, last, rfl⟩ := (List.eq_nil_or_concat' front).resolve_left hne
  cases back with
  | nil => exact iff_of_false (fun h => h.ne_nil.2 rfl) fun h => h.ne_nil.2 rfl
  | cons d rest => rw [← List.cons_append, isBoundary_iff, isBoundary_iff]

/-- A boundary stays one when more text follows. -/
theorem IsBoundary.append_right {front back : List Char} (h : IsBoundary front back)
    (rest : List Char) : IsBoundary front (back ++ rest) := by
  cases h with
  | capital hc hd => exact .capital hc hd
  | capitalized hc hd he => exact .capitalized hc hd he

/-- A text without a boundary inside it. -/
def IsWhole (word : List Char) : Prop :=
  ∀ front back, word = front ++ back → ¬ IsBoundary front back

theorem isWhole_singleton (c : Char) : IsWhole [c] := by
  rintro front back hcut hboundary
  obtain ⟨hfront, hback⟩ := hboundary.ne_nil
  simp_all [List.singleton_eq_append_iff]

/-- A text is whole if its first two characters are no boundary and the text behind the first one is
whole. -/
theorem isWhole_cons_iff {c d : Char} {word : List Char} : IsWhole (c :: d :: word) ↔
    endsWordBetween c d word.head? = false ∧ IsWhole (d :: word) := by
  constructor
  · intro h
    refine ⟨?_, fun front back hcut hboundary => ?_⟩
    · have hinside := h [c] (d :: word) rfl
      rwa [← List.nil_append [c], isBoundary_iff, Bool.not_eq_true] at hinside
    · refine h (c :: front) back (by rw [hcut, List.cons_append]) ?_
      exact (isBoundary_cons_iff hboundary.ne_nil.1 c).2 hboundary
  · rintro ⟨hends, hwhole⟩ front back hcut hboundary
    rcases List.cons_eq_append_iff.1 hcut with ⟨rfl, -⟩ | ⟨front, rfl, hrest⟩
    · exact hboundary.ne_nil.1 rfl
    · cases front with
      | nil =>
        obtain rfl : d :: word = back := hrest
        rw [← List.nil_append [c], isBoundary_iff, hends] at hboundary
        cases hboundary
      | cons first front =>
        exact hwhole _ _ hrest ((isBoundary_cons_iff (List.cons_ne_nil _ _) c).1 hboundary)

/-! ## The first word -/

/-- Characters that belong to no word. -/
def IsGap (gap : List Char) : Prop :=
  ∀ c ∈ gap, c.isAlphanum = false

/-- A word ends before what follows it: before nothing, a separator or a boundary. -/
def EndsBefore (word rest : List Char) : Prop :=
  ∀ c ∈ rest.head?, c.isAlphanum → IsBoundary word rest

theorem EndsBefore.not_isLower {word rest : List Char} (h : EndsBefore word rest) :
    rest.head?.any Char.isLower = false := by
  cases rest with
  | nil => rfl
  | cons c rest =>
    rw [List.head?_cons, Option.any_some, ← Bool.not_eq_true]
    intro hlower
    have hupper := (h c rfl (isAlphanum_of_isLower hlower)).isUpper
    grind [Char.isLower, Char.isUpper]

/-- What follows a word does not decide about a boundary in front of it. -/
theorem EndsBefore.endsWordBetween_append {front rest : List Char} (h : EndsBefore front rest)
    (prev next : Char) (word : List Char) :
    endsWordBetween prev next (word ++ rest).head? = endsWordBetween prev next word.head? := by
  cases word with
  | nil => simp [endsWordBetween, h.not_isLower]
  | cons => rfl

/-- A boundary before a word is told by that word, as no small letter follows it. -/
theorem IsBoundary.of_append {front word rest : List Char} (h : IsBoundary front (word ++ rest))
    (hne : word ≠ []) (hend : EndsBefore word rest) : IsBoundary front word := by
  obtain ⟨d, word, rfl⟩ := List.exists_cons_of_ne_nil hne
  obtain ⟨before, c, rfl⟩ := (List.eq_nil_or_concat' front).resolve_left h.ne_nil.1
  rw [List.cons_append, isBoundary_iff, hend.endsWordBetween_append] at h
  exact isBoundary_iff.2 h

/-- **The first word of a text** stands behind separators only. It has no boundary inside it, it ends
where the text ends, at a separator or at a boundary, and the other words are those of what follows. -/
theorem exists_of_words_eq_cons {text word : List Char} {others : List (List Char)}
    (h : words text = word :: others) :
    ∃ gap rest, text = gap ++ word ++ rest ∧ IsGap gap ∧ words rest = others ∧ IsWhole word ∧
      EndsBefore word rest := by
  -- The text is split from its end, so a character joins the first word of what is behind it.
  induction text generalizing word others with
  | nil => cases h
  | cons c text ih =>
    rw [words] at h
    split at h
    · rename_i hc
      split at h
      · -- the character is put in front of the first word of what follows
        rename_i hjoins
        obtain ⟨next, after, rfl, hnext, hends⟩ := exists_cons_of_joinsNext hjoins
        obtain ⟨tail, behind, hwords⟩ := exists_words_cons hnext after
        obtain ⟨gap, rest, htext, hgap, hrest, hwhole, hend⟩ := ih hwords
        rw [hwords, consFirst, List.cons.injEq] at h
        obtain ⟨rfl, rfl⟩ := h
        cases gap with
        | cons first gap =>
          obtain ⟨rfl, -⟩ := List.cons.inj htext
          rw [hgap next List.mem_cons_self] at hnext
          cases hnext
        | nil =>
          obtain rfl : after = tail ++ rest := List.tail_eq_of_cons_eq htext
          have hstays : endsWordBetween c next tail.head? = false := by
            cases tail with
            | cons => exact hends
            | nil =>
              rw [← Bool.not_eq_true] at hends ⊢
              exact fun hearly => hends (endsWordBetween_of_none hearly _)
          refine ⟨[], rest, rfl, List.forall_mem_nil _, hrest, isWhole_cons_iff.2 ⟨hstays, hwhole⟩, ?_⟩
          exact fun d hd hd' => (isBoundary_cons_iff (List.cons_ne_nil _ _) c).2 (hend d hd hd')
      · -- the character is a word of its own
        rename_i hjoins
        cases h
        refine ⟨[], text, rfl, List.forall_mem_nil _, rfl, isWhole_singleton c, fun d hd hd' => ?_⟩
        obtain ⟨after, rfl⟩ := List.head?_eq_some_iff.1 hd
        rw [← List.nil_append [c], isBoundary_iff]
        simpa [joinsNext, hd'] using hjoins
    · rename_i hc
      obtain ⟨gap, rest, rfl, hgap, hrest⟩ := ih h
      refine ⟨c :: gap, rest, by simp, List.forall_mem_cons.2 ⟨by simpa using hc, hgap⟩, hrest⟩

/-- No boundary is left inside a word. -/
theorem isWhole_of_mem_words {text word : List Char} (h : word ∈ words text) : IsWhole word := by
  generalize hwords : words text = pieces at h
  induction pieces generalizing text with
  | nil => cases h
  | cons first others ih =>
    obtain ⟨gap, rest, -, -, hrest, hwhole, -⟩ := exists_of_words_eq_cons hwords
    rcases List.mem_cons.1 h with rfl | hother
    · exact hwhole
    · exact ih hrest hother

/-- Separators in front of a text do not change its words. -/
theorem IsGap.words_append {gap : List Char} (h : IsGap gap) (text : List Char) :
    words (gap ++ text) = words text := by
  induction gap with
  | nil => rfl
  | cons c gap ih =>
    rw [IsGap, List.forall_mem_cons] at h
    rw [List.cons_append, words, if_neg (by simp [h.1]), ih h.2]

/-- **A word at the start of a text** is the first of its words, if it ends before what follows. -/
theorem words_append {word rest : List Char} (hne : word ≠ []) (hchars : ∀ c ∈ word, c.isAlphanum)
    (hwhole : IsWhole word) (hend : EndsBefore word rest) :
    words (word ++ rest) = word :: words rest := by
  induction word with
  -- A last character stands alone, since the word ends before what follows.
  | nil => exact absurd rfl hne
  | cons c word ih =>
    rw [List.forall_mem_cons] at hchars
    cases word with
    | nil =>
      have hjoins : joinsNext c rest = false := by
        cases rest with
        | nil => rfl
        | cons d after =>
          cases hd : d.isAlphanum with
          | false => simp [joinsNext, hd]
          | true =>
            have hboundary := hend d rfl hd
            rw [← List.nil_append [c], isBoundary_iff] at hboundary
            simp [joinsNext, hboundary]
      rw [List.singleton_append, words, if_pos hchars.1, hjoins, if_neg Bool.false_ne_true]
    | cons d word =>
      obtain ⟨hstays, hwhole⟩ := isWhole_cons_iff.1 hwhole
      have hd := hchars.2 d List.mem_cons_self
      -- Inside the word there is no boundary, also in view of what follows it.
      have hends : endsWordBetween c d (word ++ rest).head? = false := by
        rw [hend.endsWordBetween_append, hstays]
      have hword := ih (List.cons_ne_nil _ _) hchars.2 hwhole fun e he he' =>
        (isBoundary_cons_iff (List.cons_ne_nil _ _) c).1 (hend e he he')
      have hjoins : joinsNext c (d :: word ++ rest) = true := by
        rw [List.cons_append, joinsNext, hd, hends]
        rfl
      rw [List.cons_append, words, if_pos hchars.1, if_pos hjoins, hword, consFirst]

theorem flatten_consFirst (c : Char) (pieces : List (List Char)) :
    (consFirst c pieces).flatten = c :: pieces.flatten := by
  cases pieces <;> rfl

/-- The words hold all letters and digits of a text. -/
theorem flatten_words (text : List Char) : (words text).flatten = text.filter Char.isAlphanum := by
  induction text with
  | nil => rfl
  | cons c rest ih =>
    rw [words]
    split
    · rename_i hc
      rw [List.filter_cons_of_pos hc, ← ih]
      split
      · exact flatten_consFirst c _
      · rfl
    · rename_i hc
      rw [List.filter_cons_of_neg hc, ih]

/-! ## The split -/

/-- The words of a text, each with the separators behind it. -/
abbrev Layout := List (List Char × List Char)

/-- The text that is laid out. -/
def Layout.text (layout : Layout) : List Char :=
  layout.flatMap fun entry => entry.1 ++ entry.2

/-- Words are kept apart by separators or by boundaries. -/
structure Layout.IsSeparated (layout : Layout) : Prop where
  isGap : ∀ entry ∈ layout, IsGap entry.2
  isChain : layout.IsChain fun entry next => entry.2 = [] → IsBoundary entry.1 next.1

/-- Pieces that a text is cut into at its separators and boundaries. -/
structure IsBoundarySplit (text : List Char) (pieces : List (List Char)) : Prop where
  /-- Nothing is lost but separators. -/
  flatten_eq : pieces.flatten = text.filter Char.isAlphanum
  /-- A piece is made of letters and digits, and it is not empty. -/
  isWord : ∀ piece ∈ pieces, piece ≠ [] ∧ ∀ c ∈ piece, c.isAlphanum
  /-- No boundary is left inside a piece. -/
  isWhole : ∀ piece ∈ pieces, IsWhole piece
  /-- The pieces stand in the text as they are. Between two of them there are separators, or there is
  a boundary. -/
  isLaidOut : ∃ (gap : List Char) (layout : Layout), layout.map Prod.fst = pieces ∧
    text = gap ++ layout.text ∧ IsGap gap ∧ layout.IsSeparated

theorem Layout.IsSeparated.tail {entry : List Char × List Char} {layout : Layout}
    (h : IsSeparated (entry :: layout)) : layout.IsSeparated :=
  ⟨fun next hnext => h.isGap next (List.mem_cons_of_mem _ hnext), h.isChain.tail⟩

/-- The first word of a layout ends before what follows it. -/
theorem Layout.IsSeparated.endsBefore {word gap : List Char} {layout : Layout}
    (h : IsSeparated ((word, gap) :: layout)) : EndsBefore word (gap ++ layout.text) := by
  intro c hc halphanum
  cases gap with
  | cons first gap =>
    obtain rfl : first = c := by simpa using hc
    rw [h.isGap _ List.mem_cons_self first List.mem_cons_self] at halphanum
    cases halphanum
  | nil =>
    cases layout with
    | nil => cases hc
    | cons next layout =>
      have hboundary := (List.isChain_cons_cons.1 h.isChain).1 rfl
      rw [List.nil_append, text, List.flatMap_cons, List.append_assoc]
      exact hboundary.append_right _

/-- A word that ends before a layout and is kept apart from it by separators, or else by a boundary, is
put in front of it. -/
theorem Layout.IsSeparated.cons {layout : Layout} (h : layout.IsSeparated)
    (hword : ∀ entry ∈ layout, entry.1 ≠ [] ∧ ∀ c ∈ entry.1, c.isAlphanum) {word gap : List Char}
    (hgap : IsGap gap) (hend : EndsBefore word (gap ++ layout.text)) :
    IsSeparated ((word, gap) :: layout) := by
  refine ⟨List.forall_mem_cons.2 ⟨hgap, h.isGap⟩, ?_⟩
  cases layout with
  | nil => exact .singleton _
  | cons entry layout =>
    obtain ⟨next, behind⟩ := entry
    refine List.isChain_cons_cons.2 ⟨?_, h.isChain⟩
    rintro rfl
    obtain ⟨hne, hchars⟩ := hword (next, behind) List.mem_cons_self
    obtain ⟨d, tail, rfl⟩ := List.exists_cons_of_ne_nil hne
    rw [List.nil_append, text, List.flatMap_cons, List.append_assoc] at hend
    exact (hend d rfl (hchars d List.mem_cons_self)).of_append hne h.endsBefore

/-- A text is laid out as its words. -/
theorem exists_layout (text : List Char) : ∃ (gap : List Char) (layout : Layout),
    layout.map Prod.fst = words text ∧ text = gap ++ layout.text ∧ IsGap gap ∧
      layout.IsSeparated := by
  generalize hwords : words text = pieces
  induction pieces generalizing text with
  | nil =>
    have hnone := flatten_words text
    rw [hwords, List.flatten_nil, eq_comm, List.filter_eq_nil_iff] at hnone
    exact ⟨text, [], rfl, (List.append_nil _).symm, fun c hc => by simpa using hnone c hc,
      List.forall_mem_nil _, .nil⟩
  | cons word others ih =>
    obtain ⟨gap, rest, rfl, hgap, hrest, -, hend⟩ := exists_of_words_eq_cons hwords
    obtain ⟨behind, layout, hlayout, rfl, hbehind, hseparated⟩ := ih rest hrest
    have hword : ∀ entry ∈ layout, entry.1 ≠ [] ∧ ∀ c ∈ entry.1, c.isAlphanum := fun entry hmem =>
      words_spec (hrest ▸ hlayout ▸ List.mem_map_of_mem hmem)
    exact ⟨gap, (word, behind) :: layout, by rw [List.map_cons, hlayout], by simp [Layout.text], hgap,
      hseparated.cons hword hbehind hend⟩

/-- The words of a text that is laid out are those of the layout. -/
theorem Layout.IsSeparated.words_eq {layout : Layout} (h : layout.IsSeparated)
    (hword : ∀ entry ∈ layout, entry.1 ≠ [] ∧ ∀ c ∈ entry.1, c.isAlphanum)
    (hwhole : ∀ entry ∈ layout, IsWhole entry.1) {gap : List Char} (hgap : IsGap gap) :
    words (gap ++ layout.text) = layout.map Prod.fst := by
  induction layout generalizing gap with
  | nil =>
    rw [hgap.words_append]
    rfl
  | cons entry layout ih =>
    obtain ⟨word, behind⟩ := entry
    rw [List.forall_mem_cons] at hword hwhole
    rw [hgap.words_append, text, List.flatMap_cons, List.append_assoc, ← text,
      words_append hword.1.1 hword.1.2 hwhole.1 h.endsBefore,
      ih h.tail hword.2 hwhole.2 (h.isGap _ List.mem_cons_self), List.map_cons]

theorem words_isBoundarySplit (text : List Char) : IsBoundarySplit text (words text) where
  flatten_eq := flatten_words text
  isWord _ := words_spec
  isWhole _ := isWhole_of_mem_words
  isLaidOut := exists_layout text

/-- A text has only one split. -/
theorem IsBoundarySplit.words_eq {text : List Char} {pieces : List (List Char)}
    (h : IsBoundarySplit text pieces) : words text = pieces := by
  obtain ⟨gap, layout, rfl, rfl, hgap, hseparated⟩ := h.isLaidOut
  exact hseparated.words_eq (List.forall_mem_map.1 h.isWord) (List.forall_mem_map.1 h.isWhole) hgap

/-- **The words of a text** are the pieces that it is cut into at its separators and boundaries, and no
others: they hold all its letters and digits and nothing else, none of them is empty or has a boundary
inside it, and two of them stand apart by separators or by a boundary. -/
theorem splitWords_eq_iff (text : String) (pieces : List String) :
    splitWords text = pieces ↔ IsBoundarySplit text.toList (pieces.map String.toList) := by
  constructor
  · rintro rfl
    have hwords : (splitWords text).map String.toList = words text.toList := by
      simp [splitWords]
    rw [hwords]
    exact words_isBoundarySplit text.toList
  · intro h
    rw [splitWords, h.words_eq]
    simp

example : splitWords "loadHTTPPage2Of-7" = ["load", "HTTP", "Page2", "Of", "7"] := by
  decide +kernel

end DartLayers.Text
