import DartLayers.Proofs.Dart.Printed

/-!
# DartLayers — literals and comments of Dart text

The parts of a Dart text that are no code: its literals, by the texts that they stand for, and its
one-line comments. A literal ends on its line, or the line cannot be read. What an expression copies
into its literals is found in them as it was, exactly if it holds no line break.

* **`asides`** — the literals and comments of a text.
* **`Strand.run_renderAll_iff`** — when the literals of a line are those that were written into it.
* **`Decoding.run_render_iff`** — when the literals of an expression are its copies of the key.
* **`Encloses`** — a text holds given texts in its literals and comments.
-/

namespace DartLayers.Dart

/-! ## Reading a line -/

/-- A part of a line that is no code: a literal, by the text that it stands for, or a comment. -/
inductive Aside where
  | literal (text : String)
  | comment (text : String)
  deriving DecidableEq

/-- The text of a literal or of a comment. -/
def Aside.text : Aside → String
  | .literal text | .comment text => text

/-- Where a reader of a line is, with what it has read of a literal or of a comment, last character
first. -/
inductive Place where
  | code
  | slash
  | literal (quote : Char) (text : List Char)
  | escaped (quote : Char) (text : List Char)
  | comment (text : List Char)
  deriving DecidableEq

namespace Place

/-- The place in code, behind a character. -/
def afterCode (c : Char) : Place :=
  if c == '/' then .slash else if c == '\'' || c == '"' then .literal c [] else .code

/-- The literal that ends with a character, and the place behind it. A line break, which is on no
line, is not read, and neither are an interpolation and an escape of a character that needs none. -/
def next (place : Place) (c : Char) : Option (List Aside × Place) :=
  if c == '\n' || c == '\r' then none
  else match place with
    | .code => some ([], afterCode c)
    | .slash => some ([], if c == '/' then .comment [] else afterCode c)
    | .literal quote text =>
      if c == '\\' then some ([], .escaped quote text)
      else if c == '$' then none
      else if c == quote then some ([.literal (String.ofList text.reverse)], .code)
      else some ([], .literal quote (c :: text))
    | .escaped quote text => if needsEscape c then some ([], .literal quote (c :: text)) else none
    | .comment text => some ([], .comment (c :: text))

/-- The literals that end in a text, and the place behind it. -/
def run : Place → List Char → Option (List Aside × Place)
  | place, [] => some ([], place)
  | place, c :: rest => (place.next c).bind fun first =>
    (run first.2 rest).map fun behind => (first.1 ++ behind.1, behind.2)

/-- What ends with a line: a comment does, and a literal must have ended before. -/
def end? : Place → Option (List Aside)
  | .code | .slash => some []
  | .comment text => some [.comment (String.ofList text.reverse)]
  | .literal _ _ | .escaped _ _ => none

theorem run_append (place : Place) (front behind : List Char) :
    run place (front ++ behind) = (run place front).bind fun first =>
      (run first.2 behind).map fun last => (first.1 ++ last.1, last.2) := by
  induction front generalizing place with
  | nil => simp [run]
  | cons c front ih =>
    rw [List.cons_append, run, run]
    cases place.next c with
    | none => rfl
    | some first =>
      rw [Option.bind_some, Option.bind_some, ih]
      cases run first.2 front with
      | none => rfl
      | some found => cases hbehind : run found.2 behind <;> simp [hbehind]

/-- Only a line is read to its end. -/
theorem isLine_of_run {place : Place} {text : String} {found : List Aside × Place}
    (h : run place text.toList = some found) : Text.IsLine text := by
  rw [Text.IsLine]
  generalize text.toList = chars at h
  induction chars generalizing place found with
  | nil => exact List.forall_mem_nil _
  | cons c rest ih =>
    obtain ⟨first, hnext, hrest⟩ := Option.bind_eq_some_iff.1 h
    obtain ⟨behind, hbehind, -⟩ := Option.map_eq_some_iff.1 hrest
    unfold next at hnext
    split at hnext
    · cases hnext
    · rename_i hbreak
      exact List.forall_mem_cons.2 ⟨by simpa using hbreak, ih hbehind⟩

/-- What has been read of a literal or of a comment. -/
def inside : Place → List Char
  | .code | .slash => []
  | .literal _ text | .escaped _ text | .comment text => text

theorem inside_afterCode (c : Char) : (afterCode c).inside = [] := by
  rw [afterCode]
  split
  · rfl
  · split <;> rfl

/-- A step takes characters of the line only into what it reads. -/
theorem mem_of_next {place after : Place} {c : Char} {found : List Aside}
    (h : place.next c = some (found, after)) :
    (∀ aside ∈ found, ∀ d ∈ aside.text.toList, d ∈ place.inside) ∧
      ∀ d ∈ after.inside, d = c ∨ d ∈ place.inside := by
  unfold next at h
  split at h
  · cases h
  -- Only literals and comments collect characters, and each takes the one that is read.
  cases place with
  | code =>
    cases h
    simp [inside_afterCode]
  | slash =>
    cases h
    refine ⟨List.forall_mem_nil _, ?_⟩
    split
    · exact List.forall_mem_nil _
    · rw [inside_afterCode]
      exact List.forall_mem_nil _
  | literal quote text =>
    dsimp only at h
    split at h
    · cases h
      exact ⟨List.forall_mem_nil _, fun d hd => .inr hd⟩
    · split at h
      · cases h
      · split at h <;> cases h
        · simp [Aside.text, inside]
        · exact ⟨List.forall_mem_nil _, fun d hd => List.mem_cons.1 hd⟩
  | escaped quote text =>
    dsimp only at h
    split at h <;> cases h
    exact ⟨List.forall_mem_nil _, fun d hd => List.mem_cons.1 hd⟩
  | comment text =>
    cases h
    exact ⟨List.forall_mem_nil _, fun d hd => List.mem_cons.1 hd⟩

/-- Literals that are found in a line are made of its characters. -/
theorem mem_of_run {place after : Place} {line : List Char} {found : List Aside}
    (h : run place line = some (found, after)) :
    (∀ aside ∈ found, ∀ d ∈ aside.text.toList, d ∈ line ∨ d ∈ place.inside) ∧
      ∀ d ∈ after.inside, d ∈ line ∨ d ∈ place.inside := by
  induction line generalizing place found with
  | nil =>
    cases h
    exact ⟨List.forall_mem_nil _, fun d hd => .inr hd⟩
  | cons c rest ih =>
    obtain ⟨⟨first, middle⟩, hnext, hrest⟩ := Option.bind_eq_some_iff.1 h
    obtain ⟨⟨others, last⟩, hbehind, hfound⟩ := Option.map_eq_some_iff.1 hrest
    cases hfound
    obtain ⟨hfirst, hmiddle⟩ := mem_of_next hnext
    obtain ⟨hothers, hlast⟩ := ih hbehind
    -- a character of the place behind the first one is that one, or was there before it
    have hreached : ∀ d, d ∈ rest ∨ d ∈ middle.inside → d ∈ c :: rest ∨ d ∈ place.inside := by
      rintro d (hd | hd)
      · exact .inl (List.mem_cons_of_mem c hd)
      · exact (hmiddle d hd).imp_left fun heq => List.mem_cons.2 (.inl heq)
    refine ⟨List.forall_mem_append.2 ⟨fun aside haside d hd => .inr (hfirst aside haside d hd), ?_⟩,
      fun d hd => hreached d (hlast d hd)⟩
    exact fun aside haside d hd => hreached d (hothers aside haside d hd)

theorem mem_of_end? {place : Place} {last : List Aside} (h : place.end? = some last) :
    ∀ aside ∈ last, ∀ d ∈ aside.text.toList, d ∈ place.inside := by
  cases place with
  | code | slash =>
    cases h
    exact List.forall_mem_nil _
  | literal quote text | escaped quote text => cases h
  | comment text =>
    cases h
    simp [Aside.text, inside]

end Place

/-- The literals and comments of a line; none if a literal does not end on it. -/
def lineAsides (line : List Char) : List Aside :=
  ((Place.run .code line).bind fun found => found.2.end?.map (found.1 ++ ·)).getD []

/-- The literals and comments of a text. -/
def asides (text : String) : List Aside :=
  (Text.linesOf text).flatMap lineAsides

/-- **What is found in a line holds no line break.** -/
theorem isLine_of_mem_lineAsides {line : List Char} {aside : Aside} (h : aside ∈ lineAsides line) :
    Text.IsLine aside.text := by
  rw [lineAsides] at h
  cases hread : (Place.run .code line).bind fun found => found.2.end?.map (found.1 ++ ·) with
  | none =>
    rw [hread] at h
    cases h
  | some all =>
    rw [hread, Option.getD_some] at h
    obtain ⟨⟨found, place⟩, hrun, hmap⟩ := Option.bind_eq_some_iff.1 hread
    obtain ⟨last, hend, rfl⟩ := Option.map_eq_some_iff.1 hmap
    obtain ⟨hfound, hinside⟩ := Place.mem_of_run hrun
    have htext : Place.run .code (String.ofList line).toList = some (found, place) := by
      rwa [String.toList_ofList]
    have hline := Place.isLine_of_run htext
    rw [Text.IsLine, String.toList_ofList] at hline
    -- nothing has been read in front of the line, so all that is found stands on it
    have hnone : ∀ d, d ∈ line ∨ d ∈ Place.code.inside → d ∈ line := by
      simp [Place.inside]
    intro d hd
    rcases List.mem_append.1 h with hmem | hmem
    · exact hline d (hnone d (hfound aside hmem d hd))
    · exact hline d (hnone d (hinside d (Place.mem_of_end? hend aside hmem d hd)))

theorem isLine_of_mem_asides {text : String} {aside : Aside} (h : aside ∈ asides text) :
    Text.IsLine aside.text := by
  obtain ⟨line, -, hline⟩ := List.mem_flatMap.1 h
  exact isLine_of_mem_lineAsides hline

/-- A line is read as a text of its own. -/
theorem asides_of_isLine {text : String} (h : Text.IsLine text) :
    asides text = lineAsides text.toList := by
  rw [asides, Text.linesOf_of_isLine h, List.flatMap_singleton]

example : asides "a('it\\'s \\$1', \"b\") / 2; // 'c'\nd('e\nf');\n" =
    [.literal "it's $1", .literal "b", .comment " 'c'"] := by
  decide +kernel

/-! ## Pieces of a line -/

/-- A character of code on a line that starts neither a literal nor a comment. -/
def isCodeChar (c : Char) : Bool :=
  c != '/' && c != '\'' && c != '"' && c != '\n' && c != '\r'

/-- A text in which nothing but code stands. -/
def IsCode (text : String) : Prop :=
  text.toList.all isCodeChar = true

instance (text : String) : Decidable (IsCode text) :=
  inferInstanceAs (Decidable (text.toList.all isCodeChar = true))

@[simp] theorem isCode_append {text other : String} :
    IsCode (text ++ other) ↔ IsCode text ∧ IsCode other := by
  simp only [IsCode, String.toList_append, List.all_append, Bool.and_eq_true]

theorem IsTypeText.isCode {text : String} (h : IsTypeText text) : IsCode text := by
  refine List.all_eq_true.2 fun c hc => ?_
  simp only [isCodeChar, Bool.and_eq_true, bne_iff_ne]
  refine ⟨⟨⟨⟨?_, ?_⟩, ?_⟩, ?_⟩, ?_⟩ <;> rintro rfl <;> exact h.not_mem (by decide) hc

theorem IsWord.isCode {text : String} (h : IsWord text) : IsCode text :=
  IsTypeText.isCode (IsWord.isTypeText h)

namespace Place

theorem run_code {text : String} (h : IsCode text) : run .code text.toList = some ([], .code) := by
  have hchars : ∀ chars : List Char, chars.all isCodeChar = true →
      run .code chars = some ([], .code) := by
    intro chars hcode
    induction chars with
    | nil => rfl
    | cons c rest ih =>
      simp only [List.all_cons, isCodeChar, Bool.and_eq_true, bne_iff_ne] at hcode
      obtain ⟨⟨⟨⟨⟨hslash, hsingle⟩, hdouble⟩, hfeed⟩, hreturn⟩, hrest⟩ := hcode
      have hnext : next .code c = some ([], .code) := by
        simp [next, afterCode, hslash, hsingle, hdouble, hfeed, hreturn]
      rw [run, hnext, Option.bind_some, ih hrest]
      rfl
  exact hchars _ h

/-- **A text that was written into a literal** is read back as it was, if it is a line. -/
theorem run_escape {quote : Char} (hquote : quote = '\'' ∨ quote = '"') {text : String}
    (h : Text.IsLine text) (before : List Char) :
    run (.literal quote before) (escape text).toList =
      some ([], .literal quote (text.toList.reverse ++ before)) := by
  have hchars : ∀ chars : List Char, (∀ c ∈ chars, c ≠ '\n' ∧ c ≠ '\r') → ∀ before,
      run (.literal quote before) (escapeChars chars) =
        some ([], .literal quote (chars.reverse ++ before)) := by
    intro chars hchars
    induction chars with
    | nil => exact fun _ => rfl
    | cons c rest ih =>
      intro before
      rw [List.forall_mem_cons] at hchars
      rw [escapeChars, List.reverse_cons, List.append_assoc, List.singleton_append]
      split
      · rename_i hmark
        simp [run, next, hmark, hchars.1, ih hchars.2]
      · rename_i hplain
        have hkept : c ≠ '\\' ∧ c ≠ '$' ∧ c ≠ quote := by
          simp only [needsEscape, Bool.or_eq_true, beq_iff_eq, not_or] at hplain
          rcases hquote with rfl | rfl <;> simp_all
        simp [run, next, hkept, hchars.1, ih hchars.2]
  rw [escape, String.toList_ofList]
  exact hchars text.toList h before

/-- A comment is read as it is. -/
theorem run_comment {text : List Char} (h : ∀ c ∈ text, c ≠ '\n' ∧ c ≠ '\r') (before : List Char) :
    run (.comment before) text = some ([], .comment (text.reverse ++ before)) := by
  induction text generalizing before with
  | nil => rfl
  | cons c rest ih =>
    rw [List.forall_mem_cons] at h
    simp [run, next, h.1, ih h.2]

end Place

/-! ## Lines -/

theorem lineAsides_of_run {line : List Char} {found : List Aside}
    (h : Place.run .code line = some (found, .code)) : lineAsides line = found := by
  rw [lineAsides, h, Option.bind_some, Place.end?, Option.map_some, List.append_nil, Option.getD_some]

theorem lineAsides_code {line : String} (h : IsCode line) : lineAsides line.toList = [] :=
  lineAsides_of_run (Place.run_code h)

/-- A comment that starts a line takes all of it. -/
theorem lineAsides_comment {text : String} (h : Text.IsLine text) :
    lineAsides ("  //" ++ text).toList = [.comment text] := by
  have hopening : Place.run .code "  //".toList = some ([], .comment []) := by decide
  simp only [lineAsides, String.toList_append, Place.run_append, hopening, Place.run_comment h,
    Option.bind_some, Option.map_some, Place.end?, List.append_nil, List.nil_append,
    List.reverse_reverse, String.ofList_toList, Option.getD_some]

/-- The literals and comments of lines. -/
def linesAsides (lines : List String) : List Aside :=
  lines.flatMap fun line => lineAsides line.toList

@[simp] theorem linesAsides_nil : linesAsides [] = [] := rfl

@[simp] theorem linesAsides_cons (line : String) (lines : List String) :
    linesAsides (line :: lines) = lineAsides line.toList ++ linesAsides lines := rfl

@[simp] theorem linesAsides_append (lines others : List String) :
    linesAsides (lines ++ others) = linesAsides lines ++ linesAsides others := by
  rw [linesAsides, List.flatMap_append]
  rfl

theorem linesAsides_flatMap {α : Type} (items : List α) (lines : α → List String) :
    linesAsides (items.flatMap lines) = items.flatMap fun item => linesAsides (lines item) := by
  rw [linesAsides, List.flatMap_assoc]
  rfl

/-- **The literals and comments of lines** are those of the text that the lines make. -/
theorem asides_ofLines {lines : List String} (h : ∀ line ∈ lines, Text.IsLine line) :
    asides (Text.ofLines lines) = linesAsides lines := by
  rw [asides, Text.linesOf_ofLines h, List.flatMap_append, List.flatMap_map]
  exact List.append_nil _

/-! ## Texts inside -/

/-- A literal stands for a text, or a comment holds it. -/
def Aside.Holds (text : String) : Aside → Prop
  | .literal inside => inside = text
  | .comment inside => text.toList <:+: inside.toList

/-- Each of several texts is held by a literal or a comment of its own. -/
def Encloses (content : String) (texts : List String) : Prop :=
  ∃ holders, holders.Sublist (asides content) ∧ List.Forall₂ Aside.Holds texts holders

theorem encloses_nil (content : String) : Encloses content [] :=
  ⟨[], List.nil_sublist _, .nil⟩

/-- Literals stand for the texts that were written into them. -/
theorem holds_literals (texts : List String) :
    List.Forall₂ Aside.Holds texts (texts.map .literal) := by
  rw [List.forall₂_map_right_iff, List.forall₂_same]
  exact fun _ _ => rfl

/-! ## Stretches of a line -/

/-- A stretch of a line as it is written: code, or a text in a literal between quotes. -/
inductive Strand where
  | code (text : String)
  | literal (quote : Char) (text : String)
  deriving DecidableEq

namespace Strand

/-- A stretch in source form. -/
def render : Strand → String
  | .code text => text
  | .literal quote text => String.singleton quote ++ escape text ++ String.singleton quote

/-- Stretches in source form, one behind the other. -/
def renderAll : List Strand → String
  | [] => ""
  | strand :: rest => strand.render ++ renderAll rest

/-- The literals among stretches, each with its quote. -/
def literals : List Strand → List (Char × String)
  | [] => []
  | .code _ :: rest => literals rest
  | .literal quote text :: rest => (quote, text) :: literals rest

@[simp] theorem renderAll_append (strands others : List Strand) :
    renderAll (strands ++ others) = renderAll strands ++ renderAll others := by
  induction strands with
  | nil => simp [renderAll]
  | cons strand rest ih => simp [renderAll, ih, String.append_assoc]

@[simp] theorem literals_append (strands others : List Strand) :
    literals (strands ++ others) = literals strands ++ literals others := by
  induction strands with
  | nil => rfl
  | cons strand rest ih => cases strand <;> simp [literals, ih]

/-- Code stands in a stretch of code only, and literals have one of the two quotes. -/
def IsClean : Strand → Prop
  | .code text => IsCode text
  | .literal quote _ => quote = '\'' ∨ quote = '"'

@[simp] theorem isClean_code {text : String} : (code text).IsClean ↔ IsCode text := Iff.rfl

theorem isClean_single (text : String) : (literal '\'' text).IsClean := .inl rfl

theorem isClean_double (text : String) : (literal '"' text).IsClean := .inr rfl

/-- **A literal ends where it was written to end**, if its text is a line: behind its opening quote a
reader takes the text, and comes back to code behind the quote that closes it. -/
theorem run_literal {quote : Char} (hquote : quote = '\'' ∨ quote = '"') {text : String}
    (h : Text.IsLine text) :
    Place.run (.literal quote []) (escape text ++ String.singleton quote).toList =
      some ([.literal text], .code) := by
  have hclosing : Place.run (.literal quote text.toList.reverse) [quote] =
      some ([.literal text], .code) := by
    rcases hquote with rfl | rfl <;> simp [Place.run, Place.next]
  rw [String.toList_append, Place.run_append, Place.run_escape hquote h, Option.bind_some,
    List.append_nil, String.toList_singleton, hclosing]
  rfl

theorem run_render {strand : Strand} (h : strand.IsClean)
    (hlines : ∀ literal ∈ literals [strand], Text.IsLine literal.2) :
    Place.run .code strand.render.toList =
      some ((literals [strand]).map (.literal ·.2), .code) := by
  cases strand with
  | code text => exact Place.run_code h
  | literal quote text =>
    have hopening : Place.run .code [quote] = some ([], .literal quote []) := by
      rcases h with rfl | rfl <;> decide
    rw [render, String.append_assoc, String.toList_append, String.toList_singleton, Place.run_append,
      hopening, Option.bind_some, run_literal h (hlines (quote, text) List.mem_cons_self)]
    rfl

/-- A text is copied into the line that has it in a literal. -/
theorem isLine_of_isLine_renderAll {strands : List Strand} (h : Text.IsLine (renderAll strands)) :
    ∀ literal ∈ literals strands, Text.IsLine literal.2 := by
  induction strands with
  | nil => exact List.forall_mem_nil _
  | cons strand rest ih =>
    rw [renderAll, Text.isLine_append] at h
    cases strand with
    | code text => exact ih h.2
    | literal quote text =>
      have htext := h.1
      rw [render, Text.isLine_append, Text.isLine_append, Text.isLine_escape] at htext
      exact List.forall_mem_cons.2 ⟨htext.1.2, ih h.2⟩

/-- **The literals of a line are those that were written into it**, exactly if the texts in them hold no
line break. -/
theorem run_renderAll_iff {strands : List Strand} (h : ∀ strand ∈ strands, strand.IsClean) :
    Place.run .code (renderAll strands).toList =
        some ((literals strands).map (.literal ·.2), .code) ↔
      ∀ literal ∈ literals strands, Text.IsLine literal.2 := by
  refine ⟨fun hrun => isLine_of_isLine_renderAll (Place.isLine_of_run hrun), fun hlines => ?_⟩
  induction strands with
  | nil => rfl
  | cons strand rest ih =>
    rw [List.forall_mem_cons] at h
    rw [← List.singleton_append (l := rest), literals_append, List.forall_mem_append] at hlines
    rw [renderAll, String.toList_append, Place.run_append, run_render h.1 hlines.1, Option.bind_some,
      ih h.2 hlines.2, ← List.singleton_append (l := rest), literals_append, List.map_append]
    rfl

end Strand

/-! ## Expressions

What an expression is written of. Its literals are its copies of the key. -/

/-- The stretches of what an expression reads. -/
def Source.strands : Source → List Strand
  | .field key => [.code "json[", .literal '\'' key, .code "]"]
  | .parameter depth => [.code (parameterName depth)]

theorem Source.renderAll_strands (source : Source) :
    Strand.renderAll source.strands = source.render := by
  cases source <;> simp [strands, Strand.renderAll, Strand.render, render, ← String.toList_inj]

theorem Source.literals_strands (source : Source) :
    Strand.literals source.strands = source.copies.map ('\'', ·) := by
  cases source <;> rfl

theorem Source.isClean_strands (source : Source) : ∀ strand ∈ source.strands, strand.IsClean := by
  cases source with
  | field key =>
    simp only [strands, List.forall_mem_cons, Strand.isClean_code]
    exact ⟨by decide, Strand.isClean_single key, by decide, nofun⟩
  | parameter depth =>
    have hword : IsWord (parameterName depth) := IsWord.append_nat (by decide) depth
    rw [strands, List.forall_mem_singleton]
    exact IsWord.isCode hword

namespace Decoding

/-- The stretches of an expression. -/
def strands : Decoding → List Strand
  | .fromJson model source =>
    [.code (model.qualified ++ ".fromJson(")] ++ source.strands ++
      [.code (" as " ++ jsonMapType ++ ")")]
  | .safeParse type source label =>
    [.code ("safeParse<" ++ type.render ++ ">(")] ++ source.strands ++
      [.code ", ", .literal '\'' label, .code ")"]
  | .mapItems source depth body =>
    [.code "("] ++ source.strands ++ [.code (" as List).map((" ++ parameterName depth ++ ") => ")] ++
      body.strands ++ [.code ").toList()"]
  | .ifPresent source body absent =>
    source.strands ++ [.code " != null ? "] ++ body.strands ++ [.code (" : " ++ absent.render)]

/-- An expression is made of its stretches. -/
theorem renderAll_strands (decoding : Decoding) :
    Strand.renderAll decoding.strands = decoding.render := by
  induction decoding with
  | fromJson model source =>
    simp [strands, render, Strand.renderAll, Strand.render, Source.renderAll_strands,
      String.append_assoc]
  | safeParse type source label =>
    simp [strands, render, Strand.renderAll, Strand.render, Source.renderAll_strands,
      ← String.toList_inj]
  | mapItems source depth body ih =>
    simp [strands, render, Strand.renderAll, Strand.render, Source.renderAll_strands, ih,
      String.append_assoc]
  | ifPresent source body absent ih =>
    simp [strands, render, Strand.renderAll, Strand.render, Source.renderAll_strands, ih,
      String.append_assoc]

/-- The literals of an expression are its copies of the key. -/
theorem literals_strands (decoding : Decoding) :
    Strand.literals decoding.strands = decoding.copies.map ('\'', ·) := by
  induction decoding with
  | fromJson | safeParse => simp [strands, copies, Strand.literals, Source.literals_strands]
  | mapItems source depth body ih | ifPresent source body absent ih =>
    simp [strands, copies, Strand.literals, Source.literals_strands, ih]

theorem isClean_strands {decoding : Decoding} (h : decoding.IsNamed) :
    ∀ strand ∈ decoding.strands, strand.IsClean := by
  induction decoding with
  | fromJson model source =>
    have hmodel := IsWord.isCode (TypeName.qualified_isWord h)
    simp only [strands, List.forall_mem_append, List.forall_mem_singleton, Strand.isClean_code,
      isCode_append]
    exact ⟨⟨⟨hmodel, by decide⟩, source.isClean_strands⟩, by decide⟩
  | safeParse type source label =>
    have htype : IsCode type.render := IsTypeText.isCode h
    simp only [strands, List.forall_mem_append, List.forall_mem_cons, Strand.isClean_code,
      isCode_append]
    exact ⟨⟨⟨⟨⟨by decide, htype⟩, by decide⟩, nofun⟩, source.isClean_strands⟩, by decide,
      Strand.isClean_single label, by decide, nofun⟩
  | mapItems source depth body ih =>
    have hparameter : IsCode (parameterName depth) :=
      IsWord.isCode (IsWord.append_nat (by decide) depth)
    simp only [strands, List.forall_mem_append, List.forall_mem_singleton, Strand.isClean_code,
      isCode_append]
    exact ⟨⟨⟨⟨by decide, source.isClean_strands⟩, ⟨by decide, hparameter⟩, by decide⟩, ih h⟩,
      by decide⟩
  | ifPresent source body absent ih =>
    have habsent : IsCode absent.render := by cases absent <;> decide
    simp only [strands, List.forall_mem_append, List.forall_mem_singleton, Strand.isClean_code,
      isCode_append]
    exact ⟨⟨⟨source.isClean_strands, by decide⟩, ih h⟩, by decide, habsent⟩

/-- **The literals of an expression** are its copies of the key, exactly if these hold no line break. -/
theorem run_render_iff {decoding : Decoding} (h : decoding.IsNamed) :
    Place.run .code decoding.render.toList = some (decoding.copies.map .literal, .code) ↔
      ∀ text ∈ decoding.copies, Text.IsLine text := by
  have hstrands := Strand.run_renderAll_iff (isClean_strands h)
  rwa [renderAll_strands, literals_strands, List.map_map, List.forall_mem_map] at hstrands

end Decoding

end DartLayers.Dart
