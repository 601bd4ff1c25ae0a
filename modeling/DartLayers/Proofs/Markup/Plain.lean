import DartLayers.Markup
import DartLayers.Proofs.Steps

/-!
# DartLayers — texts that are no markup

Markup can be at fault in its tags only, and a tag starts with a bracket. So a text without a bracket
can always be shown, also behind a dimmed text. In any marked-up text a letter in front is shown in
front.

* **`Markup.plain_of_no_bracket`** — a text without a bracket has no fault.
* **`Markup.check_dimmed`** — nor has one behind a dimmed text.
* **`Markup.plain_head`** — a character that has no meaning of its own stays in front.
-/

namespace DartLayers.Markup

/-- Whether a piece is a text. -/
def Piece.isText : Piece → Bool
  | .text _ => true
  | .tag _ => false

theorem isText_of_mem_textPiece {text : List Char} : ∀ piece ∈ textPiece text, piece.isText := by
  intro piece hpiece
  rw [textPiece] at hpiece
  split at hpiece
  · cases hpiece
  · rw [List.mem_singleton.1 hpiece]
    rfl

/-- Where no bracket follows there are only texts. -/
theorem isText_of_mem_piecesFrom {text : List Char} (h : '[' ∉ text) (position : Nat)
    (read : List Char) (backslashes : Nat) :
    ∀ piece ∈ piecesFrom position (.outside read backslashes) text, piece.isText := by
  induction text generalizing position read backslashes with
  | nil =>
    rw [piecesFrom]
    exact isText_of_mem_textPiece
  | cons c rest ih =>
    rw [List.mem_cons, not_or] at h
    rw [piecesFrom]
    split
    · exact ih h.2 _ _ _
    · rw [if_neg (by simp [Ne.symm h.1])]
      exact ih h.2 _ _ _

/-- Texts are read without a fault, and neither open nor close a tag. -/
theorem exists_foldlM_addPiece {pieces : List Piece} (h : ∀ piece ∈ pieces, piece.isText)
    (reading : Reading) : ∃ after, pieces.foldlM Reading.addPiece reading = .ok after ∧
      after.opened = reading.opened ∧ after.spans = reading.spans := by
  induction pieces generalizing reading with
  | nil => exact ⟨reading, rfl, rfl, rfl⟩
  | cons piece rest ih =>
    rw [List.foldlM_cons]
    cases piece with
    | text text =>
      exact ih (fun other hother => h other (List.mem_cons_of_mem _ hother)) (reading.addText text)
    | tag tag => cases h _ List.mem_cons_self

/-- **A text without a bracket has no fault.** -/
theorem plain_of_no_bracket {markup : String} (h : '[' ∉ markup.toList) :
    ∃ text, plain markup = .ok text := by
  obtain ⟨reading, hreading, -⟩ :=
    exists_foldlM_addPiece (isText_of_mem_piecesFrom h 0 [] 0) {}
  refine ⟨String.ofList reading.finish.text, ?_⟩
  rw [plain, read, piecesOf, hreading]
  rfl

/-! ## Dimmed text -/

/-- A text without brackets and backslashes is read on to what follows it. -/
theorem piecesFrom_append {text : List Char} (h : ∀ c ∈ text, c ≠ '[' ∧ c ≠ '\\') (position : Nat)
    (read rest : List Char) : piecesFrom position (.outside read 0) (text ++ rest) =
      piecesFrom (position + text.length) (.outside (text.reverse ++ read) 0) rest := by
  induction text generalizing position read with
  | nil => rfl
  | cons c others ih =>
    obtain ⟨hbracket, hslash⟩ := h c List.mem_cons_self
    rw [List.cons_append, piecesFrom, if_neg hslash, if_neg (by simp [hbracket])]
    dsimp only
    rw [ih fun other hother => h other (List.mem_cons_of_mem _ hother)]
    simp [Nat.add_comm, Nat.add_left_comm]

/-- The open tag that dims what is shown from a place on. -/
def dimTag (start : Nat) : OpenTag :=
  { name := "dim", parameters := none, start }

theorem styleName_dim : Reading.styleName "dim".toList = .ok "dim" := by
  rfl

theorem check_dim (start stop : Nat) : ((dimTag start).span stop).check = .ok () := by
  have hread : (Style.read "dim").isOk = true := by decide +kernel
  rw [Span.check]
  dsimp only [OpenTag.span, OpenTag.style, dimTag]
  cases hstyle : Style.read "dim" with
  | ok style => rfl
  | error fault =>
    rw [hstyle] at hread
    cases hread

theorem addPiece_dim (reading : Reading) (position : Nat) :
    reading.addPiece (.tag ⟨position, "dim".toList, none⟩) =
      .ok { reading with opened := dimTag reading.shown.length :: reading.opened } := by
  have htag : reading.addPiece (.tag ⟨position, "dim".toList, none⟩) =
      reading.openTag ⟨position, "dim".toList, none⟩ := rfl
  rw [htag, Reading.openTag, styleName_dim]
  rfl

theorem addPiece_undim {reading : Reading} {start : Nat} {opened : List OpenTag}
    (h : reading.opened = dimTag start :: opened) (position : Nat) :
    reading.addPiece (.tag ⟨position, "/dim".toList, none⟩) =
      .ok { reading with opened, spans := (dimTag start).span reading.shown.length :: reading.spans } := by
  have htag : reading.addPiece (.tag ⟨position, "/dim".toList, none⟩) =
      reading.closeTag ⟨position, "/dim".toList, none⟩ "dim".toList := rfl
  have htrim : Text.trimWhile Text.isBlank "dim".toList = "dim".toList := by rfl
  have hclose : reading.close (dimTag start) =
      .ok { reading with opened, spans := (dimTag start).span reading.shown.length :: reading.spans } := by
    rw [Reading.close, h, List.erase_cons_head, if_neg (by simp [OpenTag.isHandler, dimTag])]
  rw [htag, Reading.closeTag, htrim, styleName_dim, h]
  exact hclose

/-- A dimmed text is opened and closed by tags, with texts around and between them. -/
theorem exists_pieces_dimmed {text rest : String} (htext : ∀ c ∈ text.toList, c ≠ '[' ∧ c ≠ '\\')
    (hrest : '[' ∉ rest.toList) :
    ∃ position inner outer, piecesOf ("  [dim]" ++ text ++ "[/dim] " ++ rest).toList =
        .text "  ".toList :: .tag ⟨2, "dim".toList, none⟩ ::
          (inner ++ .tag ⟨position, "/dim".toList, none⟩ :: outer) ∧
      (∀ piece ∈ inner, piece.isText) ∧ ∀ piece ∈ outer, piece.isText := by
  have hfront : ∀ behind : List Char, piecesOf ("  [dim]".toList ++ behind) =
      .text "  ".toList :: .tag ⟨2, "dim".toList, none⟩ :: piecesFrom 7 (.outside [] 0) behind :=
    fun _ => rfl
  have hback : ∀ (position : Nat) (read behind : List Char),
      piecesFrom position (.outside read 0) ("[/dim] ".toList ++ behind) = textPiece read.reverse ++
        .tag ⟨position, "/dim".toList, none⟩ :: piecesFrom (position + 7) (.outside [' '] 0) behind := by
    intro position read behind
    have hopen : "[/dim] ".toList ++ behind = '[' :: ("/dim] ".toList ++ behind) := rfl
    rw [hopen, piecesFrom, if_neg (by decide), if_pos (by rfl), List.append_assoc]
    rfl
  rw [String.toList_append, String.toList_append, String.toList_append, List.append_assoc,
    List.append_assoc, hfront, piecesFrom_append htext, hback]
  exact ⟨_, _, _, rfl, isText_of_mem_textPiece, isText_of_mem_piecesFrom hrest _ _ _⟩

theorem foldlM_addPiece_cons {piece : Piece} {reading after : Reading}
    (h : reading.addPiece piece = .ok after) (rest : List Piece) :
    (piece :: rest).foldlM Reading.addPiece reading = rest.foldlM Reading.addPiece after := by
  rw [List.foldlM_cons, h]
  rfl

theorem foldlM_addPiece_append {pieces : List Piece} {reading after : Reading}
    (h : pieces.foldlM Reading.addPiece reading = .ok after) (rest : List Piece) :
    (pieces ++ rest).foldlM Reading.addPiece reading = rest.foldlM Reading.addPiece after := by
  rw [List.foldlM_append, h]
  rfl

/-- A dimmed text leaves its style behind, and no open tag. -/
theorem exists_foldlM_dimmed {inner outer : List Piece} (hinner : ∀ piece ∈ inner, piece.isText)
    (houter : ∀ piece ∈ outer, piece.isText) (reading : Reading) (position closing : Nat) :
    ∃ after start stop, (.tag ⟨position, "dim".toList, none⟩ ::
        (inner ++ .tag ⟨closing, "/dim".toList, none⟩ :: outer)).foldlM Reading.addPiece reading =
          .ok after ∧
      after.opened = reading.opened ∧ after.spans = (dimTag start).span stop :: reading.spans := by
  obtain ⟨within, hwithin, hopened, hspans⟩ := exists_foldlM_addPiece hinner
    { reading with opened := dimTag reading.shown.length :: reading.opened }
  -- the tag that opens is the last one that is open when the other one closes it
  have hclose := addPiece_undim hopened closing
  obtain ⟨after, hafter, hended, hstyled⟩ := exists_foldlM_addPiece houter
    { within with
      opened := reading.opened
      spans := (dimTag reading.shown.length).span within.shown.length :: within.spans }
  rw [foldlM_addPiece_cons (addPiece_dim reading position), foldlM_addPiece_append hwithin,
    foldlM_addPiece_cons hclose]
  exact ⟨after, _, _, hafter, hended, by rw [hstyled, hspans]⟩

/-- **A dimmed text can be shown**, with any text without a bracket behind it. -/
theorem check_dimmed {text rest : String} (htext : ∀ c ∈ text.toList, c ≠ '[' ∧ c ≠ '\\')
    (hrest : '[' ∉ rest.toList) : check ("  [dim]" ++ text ++ "[/dim] " ++ rest) = .ok () := by
  obtain ⟨closing, inner, outer, hpieces, hinner, houter⟩ := exists_pieces_dimmed htext hrest
  obtain ⟨after, start, stop, hafter, hopened, hspans⟩ :=
    exists_foldlM_dimmed hinner houter (Reading.addText {} "  ".toList) 2 closing
  have hread : read ("  [dim]" ++ text ++ "[/dim] " ++ rest) = .ok after.finish := by
    have hfront : Reading.addPiece {} (.text "  ".toList) = .ok (Reading.addText {} "  ".toList) := rfl
    rw [read, hpieces, foldlM_addPiece_cons hfront, hafter]
    rfl
  have hfinish : after.finish.spans = [(dimTag start).span stop] := by
    rw [Reading.finish, hopened, hspans]
    exact List.mergeSort_singleton _
  rw [check, hread]
  dsimp only [bind, Except.bind]
  rw [Shown.check, hfinish, List.filter_cons]
  split
  · rw [List.filter_nil, List.forM, check_dim]
    rfl
  · rfl

/-! ## The first character -/

/-- A character without a meaning of its own: it starts no tag, protects nothing, names no picture and
is shown. -/
def IsLetter (c : Char) : Prop :=
  c ≠ '\\' ∧ c ≠ '[' ∧ c ≠ ':' ∧ isHidden c = false

instance (c : Char) : Decidable (IsLetter c) := inferInstanceAs (Decidable (_ ∧ _ ∧ _ ∧ _))

theorem textPiece_of_letter {c : Char} (hc : IsLetter c) (rest : List Char) :
    textPiece (c :: rest) = [.text (c :: dropProtection rest)] := by
  rw [textPiece, dropProtection]
  · rfl
  · intro others hslash
    exact absurd hslash hc.1

/-- The first piece starts with the letter that was read first. -/
theorem piecesFrom_of_letter {c : Char} (hc : IsLetter c) {text : List Char} (position : Nat)
    {read : List Char} (backslashes : Nat) (h : read.reverse.head? = some c) :
    ∃ first others, piecesFrom position (.outside read backslashes) text =
      .text (c :: first) :: others := by
  induction text generalizing position read backslashes with
  | nil =>
    obtain ⟨rest, hread⟩ := List.head?_eq_some_iff.1 h
    rw [piecesFrom, hread, List.cons_append, textPiece_of_letter hc]
    exact ⟨_, [], rfl⟩
  | cons next rest ih =>
    rw [piecesFrom]
    split
    · exact ih _ _ h
    · split
      · obtain ⟨others, hread⟩ := List.head?_eq_some_iff.1 h
        rw [hread, textPiece_of_letter hc]
        exact ⟨_, _, rfl⟩
      · refine ih _ _ ?_
        obtain ⟨others, hread⟩ := List.head?_eq_some_iff.1 h
        simp [hread]

/-- What is shown of a piece. -/
def Piece.shown : Piece → List Char
  | .text part => (Emoji.replace part).filter fun c => !isHidden c
  | .tag _ => []

/-- Tags show nothing. -/
theorem Reading.shown_addPiece {reading after : Reading} {piece : Piece}
    (h : reading.addPiece piece = .ok after) : after.shown = reading.shown ++ piece.shown := by
  -- Closing a tag only takes it off the stack.
  have hclose : ∀ tag : OpenTag, reading.close tag = .ok after → after.shown = reading.shown := by
    intro tag hclosed
    rw [Reading.close] at hclosed
    split at hclosed
    · split at hclosed <;> cases hclosed
      rfl
    · cases hclosed
      rfl
  cases piece with
  | text part =>
    cases h
    rfl
  | tag tag =>
    rw [Piece.shown, List.append_nil]
    rw [Reading.addPiece] at h
    split at h
    · rw [Reading.closeTag] at h
      split at h
      · split at h
        · cases h
        · exact hclose _ h
      · obtain ⟨name, -, h⟩ := exists_ok_of_bind h
        split at h
        · cases h
        · exact hclose _ h
    · obtain ⟨name, -, h⟩ := exists_ok_of_bind h
      cases h
      rfl

theorem shown_foldlM {pieces : List Piece} {reading after : Reading}
    (h : pieces.foldlM Reading.addPiece reading = .ok after) :
    after.shown = reading.shown ++ pieces.flatMap Piece.shown := by
  induction pieces generalizing reading with
  | nil =>
    cases h
    rw [List.flatMap_nil, List.append_nil]
  | cons piece rest ih =>
    rw [List.foldlM_cons] at h
    obtain ⟨middle, hmiddle, h⟩ := exists_ok_of_bind h
    rw [ih h, Reading.shown_addPiece hmiddle, List.append_assoc, List.flatMap_cons]

/-- What the console shows is what is shown of the pieces. -/
theorem plain_eq_ok {markup shown : String} (h : plain markup = .ok shown) :
    shown.toList = (piecesOf markup.toList).flatMap Piece.shown := by
  rw [plain] at h
  obtain ⟨found, hread, h⟩ := exists_ok_of_bind h
  cases h
  rw [read] at hread
  obtain ⟨reading, hreading, hread⟩ := exists_ok_of_bind hread
  cases hread
  rw [String.toList_ofList, Reading.finish, shown_foldlM hreading]
  rfl

/-- **A letter in front is shown in front.** -/
theorem plain_head {markup shown : String} {c : Char} (hc : IsLetter c)
    (hfront : markup.toList.head? = some c) (h : plain markup = .ok shown) :
    shown.toList.head? = some c := by
  obtain ⟨rest, hmarkup⟩ := List.head?_eq_some_iff.1 hfront
  obtain ⟨first, others, hpieces⟩ : ∃ first others,
      piecesOf markup.toList = .text (c :: first) :: others := by
    rw [piecesOf, hmarkup, piecesFrom, if_neg hc.1, if_neg (by simp [hc.2.1])]
    exact piecesFrom_of_letter hc _ _ rfl
  have hfirst : (Piece.text (c :: first)).shown.head? = some c := by
    rw [Piece.shown, Emoji.replace, Emoji.replaceFrom, if_neg hc.2.2.1]
    simp [hc.2.2.2]
  obtain ⟨begun, hbegun⟩ := List.head?_eq_some_iff.1 hfirst
  rw [plain_eq_ok h, hpieces, List.flatMap_cons, hbegun]
  rfl

end DartLayers.Markup
