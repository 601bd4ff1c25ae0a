import DartLayers.Proofs.Dart.Expressions
import DartLayers.Proofs.Template.Shape

/-!
# DartLayers — classes that templates name

A template is read line by line like the Dart text that it renders to. Of a value that is put into a
line only a kind is known: that it is a class of a feature, or code of its own, or a text that stands
in a literal or in a comment. If the check of a template passes, every line of every file rendered
from it names visible classes only.

* **`UseKind`** — what is known of the values.
* **`usesTest`** — the check of lines, by sketches.
* **`usesTest_sound`** — the lines of a template that passes name visible classes only.
-/

namespace DartLayers

open Dart

/-- What is known of a value: that it is a text on one line, a word, a class of a kind, code that ends
in code, or the name of a method. -/
inductive UseKind where
  | text
  | word
  | made (kind : ClassKind)
  | code
  | verb
  deriving DecidableEq

variable {visible : List ClassKind}

/-- The values of a kind; code names visible classes only. -/
def UseKind.Holds (visible : List ClassKind) : UseKind → Json → Prop
  | .text, value => ∃ text, value = .string text ∧ Text.IsLine text
  | .word, value => ∃ text, value = .string text ∧ IsWord text
  | .made kind, value => ∃ text, value = .string text ∧ IsWord text ∧
      kindOf? text.toList.reverse = some kind
  | .code, value => Reads visible .start value.display.toList .done
  | .verb, value => ∃ method : HttpMethod, value = .string method.name

/-! ## Sketches of lines -/

namespace Dart.Sketch

/-- A reader in a literal, behind a quote of either kind. -/
def isInLiteral (sketch : Sketch) : Bool :=
  sketch == ⟨.literal '\'', .exactly []⟩ || sketch == ⟨.literal '"', .exactly []⟩

/-- What is known behind a value that is put into the text in a form. -/
def put (visible : List ClassKind) (sketch : Sketch) : Shape UseKind → Form → Option Sketch
  | .exactly text, .plain => sketch.run visible text.toList
  | .leaf .text, .plain | .leaf .verb, .plain =>
    if sketch == ⟨.comment, .exactly []⟩ then some sketch else none
  | .leaf .text, .dartString => if sketch.isInLiteral then some sketch else none
  | .leaf .word, .plain => if sketch.isInLiteral then some sketch else none
  | .leaf (.made kind), .plain => if sketch == start then some ⟨.code, .made kind []⟩ else none
  | .leaf .code, .plain | .leaf .verb, .lowerCase => if sketch == start then some done else none
  | .list (.leaf .code), .joined separator =>
    if sketch == start && separator == ", " then some done else none
  | _, _ => none

/-- What is known behind the parts of a line. -/
def parts (visible : List ClassKind) (shapes : List (String × Shape UseKind)) :
    Sketch → List Part → Option Sketch
  | sketch, [] => some sketch
  | sketch, .text literal :: rest =>
    (sketch.run visible literal.toList).bind fun next => parts visible shapes next rest
  | sketch, .put expr form :: rest =>
    ((expr.shape? shapes).bind fun shape => sketch.put visible shape form).bind fun next =>
      parts visible shapes next rest

end Dart.Sketch

/-- Every line is read from its start to a name that may end. -/
def usesTest (visible : List ClassKind) : LineTest UseKind where
  text literal := (Sketch.start.run visible literal.toList).any (·.name.isSettled visible)
  parts shapes parts := (Sketch.start.parts visible shapes parts).any (·.name.isSettled visible)

/-! ## What the check is good for -/

theorem isLine_methodName (method : HttpMethod) : Text.IsLine method.name := by
  cases method <;> decide

theorem reads_lowerName (method : HttpMethod) :
    Reads visible .start (Text.lower method.name).toList .done := by
  have hlower : (Text.lower method.name) ∈ ["get", "post", "put", "delete"] := by
    cases method <;> decide +kernel
  simp only [List.mem_cons, List.not_mem_nil, or_false] at hlower
  rcases hlower with h | h | h | h <;> rw [h] <;> exact .className (by decide) rfl

/-- Code with commas between. -/
theorem reads_intercalate {pieces : List String}
    (h : ∀ piece ∈ pieces, Reads visible .start piece.toList .done) :
    Reads visible .start (", ".intercalate pieces).toList .done := by
  have hcomma : Reads visible .done ", ".toList .start := by
    refine .of_run ?_
    rw [String.toList_ofList]
    rfl
  rw [String.toList_intercalate]
  induction pieces with
  | nil => exact .finish (.nil .start)
  | cons piece rest ih =>
    rw [List.forall_mem_cons] at h
    cases rest with
    | nil => simpa using h.1
    | cons next rest =>
      rw [List.map_cons, List.map_cons, List.intercalate_cons_cons, List.append_assoc]
      exact .append h.1 (.append hcomma (ih h.2))

theorem eq_of_isInLiteral {sketch : Sketch} (h : sketch.isInLiteral = true) :
    ∃ quote, (quote = '\'' ∨ quote = '"') ∧ sketch = ⟨.literal quote, .exactly []⟩ := by
  rw [Sketch.isInLiteral, Bool.or_eq_true, beq_iff_eq, beq_iff_eq] at h
  rcases h with rfl | rfl
  · exact ⟨'\'', .inl rfl, rfl⟩
  · exact ⟨'"', .inr rfl, rfl⟩

section

variable {sketch next : Sketch} {value other : Json}

/-- A leaf is put into the text as what its kind says. -/
theorem reads_leaf {kind : UseKind} {form : Form}
    (hput : sketch.put visible (.leaf kind) form = some next) (h : kind.Holds visible value) :
    ∃ text, form.apply (.value value) = .ok text ∧ Reads visible sketch text.toList next := by
  -- A form suits some kinds only; with the others the sketch does not put the leaf anywhere.
  cases kind with
  | text =>
    obtain ⟨text, rfl, hline⟩ := h
    cases form with
    | plain =>
      obtain ⟨hsketch, hnext⟩ := Option.ite_none_right_eq_some.1 hput
      cases beq_iff_eq.1 hsketch
      cases hnext
      exact ⟨text, rfl, .comment hline⟩
    | dartString =>
      obtain ⟨hsketch, hnext⟩ := Option.ite_none_right_eq_some.1 hput
      obtain ⟨quote, hquote, rfl⟩ := eq_of_isInLiteral hsketch
      cases hnext
      refine ⟨escape text, rfl, ?_⟩
      rw [escape, String.toList_ofList]
      exact .literal_escape hquote hline
    | lowerCase | joined => cases hput
  | word =>
    obtain ⟨text, rfl, hword⟩ := h
    cases form with
    | plain =>
      obtain ⟨hsketch, hnext⟩ := Option.ite_none_right_eq_some.1 hput
      obtain ⟨quote, hquote, rfl⟩ := eq_of_isInLiteral hsketch
      cases hnext
      exact ⟨text, rfl, .literal_word hquote hword.isNameChar⟩
    | dartString | lowerCase | joined => cases hput
  | made kind =>
    obtain ⟨text, rfl, hword, hkind⟩ := h
    cases form with
    | plain =>
      obtain ⟨hsketch, hnext⟩ := Option.ite_none_right_eq_some.1 hput
      cases beq_iff_eq.1 hsketch
      cases hnext
      exact ⟨text, rfl, .word hword ⟨_, rfl, hkind⟩⟩
    | dartString | lowerCase | joined => cases hput
  | code =>
    cases form with
    | plain =>
      obtain ⟨hsketch, hnext⟩ := Option.ite_none_right_eq_some.1 hput
      cases beq_iff_eq.1 hsketch
      cases hnext
      exact ⟨value.display, rfl, h⟩
    | dartString | lowerCase | joined => cases hput
  | verb =>
    obtain ⟨method, rfl⟩ := h
    cases form with
    | plain =>
      obtain ⟨hsketch, hnext⟩ := Option.ite_none_right_eq_some.1 hput
      cases beq_iff_eq.1 hsketch
      cases hnext
      exact ⟨method.name, rfl, .comment (isLine_methodName method)⟩
    | lowerCase =>
      obtain ⟨hsketch, hnext⟩ := Option.ite_none_right_eq_some.1 hput
      cases beq_iff_eq.1 hsketch
      cases hnext
      exact ⟨Text.lower method.name, rfl, reads_lowerName method⟩
    | dartString | joined => cases hput

/-- A list of code is put into the text with commas between. -/
theorem reads_joined {form : Form} (hput : sketch.put visible (.list (.leaf .code)) form = some next)
    {values : List Json} (h : ∀ item ∈ values, UseKind.Holds visible .code item) :
    ∃ text, form.apply (.value (.array values)) = .ok text ∧ Reads visible sketch text.toList next := by
  cases form with
  | joined separator =>
    obtain ⟨hsketch, hnext⟩ := Option.ite_none_right_eq_some.1 hput
    rw [Bool.and_eq_true, beq_iff_eq, beq_iff_eq] at hsketch
    obtain ⟨rfl, rfl⟩ := hsketch
    cases hnext
    refine ⟨", ".intercalate (values.map Json.display), rfl, reads_intercalate fun piece hpiece => ?_⟩
    obtain ⟨item, hitem, rfl⟩ := List.mem_map.1 hpiece
    exact h item hitem
  | plain | dartString | lowerCase => cases hput

/-- **A value that is put into the text is read as its shape says.** -/
theorem reads_put {shape : Shape UseKind} {form : Form}
    (hput : sketch.put visible shape form = some next)
    (h : Alike (UseKind.Holds visible) shape value other) :
    ∃ text, form.apply (.value value) = .ok text ∧ form.apply (.value other) = .ok text ∧
      Reads visible sketch text.toList next := by
  -- Leaves, fixed texts and lists of code can be put into a text; nothing else has a form.
  cases shape with
  | leaf kind =>
    cases h with
    | leaf hholds =>
      obtain ⟨text, htext, hreads⟩ := reads_leaf hput hholds
      exact ⟨text, htext, htext, hreads⟩
  | exactly written =>
    cases h
    cases form with
    | plain => exact ⟨written, rfl, rfl, .of_run hput⟩
    | dartString | lowerCase | joined => cases hput
  | list item =>
    cases item with
    | leaf kind =>
      cases kind with
      | code =>
        cases h.eq_of_list
        obtain ⟨values, others, rfl, hothers, hitems⟩ := h.forall₂_of_list
        cases hothers
        have hcode : ∀ item ∈ values, UseKind.Holds visible .code item := by
          intro item hitem
          cases List.forall₂_same.1 hitems item hitem with
          | leaf hholds => exact hholds
        obtain ⟨text, htext, hreads⟩ := reads_joined hput hcode
        exact ⟨text, htext, htext, hreads⟩
      | text | word | made | verb => cases form <;> cases hput
    | exactly | list | object => cases form <;> cases hput
  | object => cases form <;> cases hput

end

/-! ## The check -/

/-- What is asked of a rendered line: it has no line break and names visible classes only. -/
def IsUsable (visible : List ClassKind) (line : String) : Prop :=
  Text.IsLine line ∧ ∀ found ∈ lineNames line.toList, IsFine visible found

/-- A line that is read to a name that may end is usable. -/
theorem isUsable_of_reads {line : String} {next : Sketch}
    (h : Reads visible .start line.toList next) (hsettled : next.name.isSettled visible = true) :
    IsUsable visible line :=
  ⟨h.unbroken, h.isFine_of_mem_lineNames hsettled⟩

variable {shapes : List (String × Shape UseKind)} {context other : Context}

/-- The parts of a line are read one after the other. -/
theorem reads_parts
    (halike : Alike (UseKind.Holds visible) (.object shapes) (.object context) (.object other)) :
    {parts : List Part} → {sketch next : Sketch} → sketch.parts visible shapes parts = some next →
      ∃ written, joinRendered (Part.render context) parts = .ok written ∧
        joinRendered (Part.render other) parts = .ok written ∧
        Reads visible sketch written.toList next
  | [], sketch, _, h => by
    cases h
    exact ⟨"", rfl, rfl, .nil sketch⟩
  | .text literal :: rest, sketch, next, h => by
    obtain ⟨reached, hrun, hrest⟩ := Option.bind_eq_some_iff.1 h
    obtain ⟨behind, hbehind, hsame, hreads⟩ := reads_parts halike hrest
    refine ⟨literal ++ behind, ?_, ?_, ?_⟩
    · rw [joinRendered, Part.render, hbehind]
      rfl
    · rw [joinRendered, Part.render, hsame]
      rfl
    · rw [String.toList_append]
      exact .append (.of_run hrun) hreads
  -- A value is put into both texts alike, as its shape says.
  | .put expr form :: rest, sketch, next, h => by
    obtain ⟨reached, hput, hrest⟩ := Option.bind_eq_some_iff.1 h
    obtain ⟨shape, hshape, hput⟩ := Option.bind_eq_some_iff.1 hput
    obtain ⟨found, also, hfound, halso, hvalue⟩ := Expr.eval_alike halike hshape
    obtain ⟨text, htext, hagain, hfirst⟩ := reads_put hput hvalue
    obtain ⟨behind, hbehind, hsame, hreads⟩ := reads_parts halike hrest
    refine ⟨text ++ behind, ?_, ?_, ?_⟩
    · rw [joinRendered, Part.render, hfound, hbehind]
      simp only [bind, Except.bind, htext]
      rfl
    · rw [joinRendered, Part.render, halso, hsame]
      simp only [bind, Except.bind, hagain]
      rfl
    · rw [String.toList_append]
      exact .append hfirst hreads

/-- **The lines of a template that passes name visible classes only.** -/
theorem usesTest_sound :
    (usesTest visible).Sound (UseKind.Holds visible) (IsUsable visible) where
  text h := by
    obtain ⟨next, hrun, hsettled⟩ := (Option.any_eq_true ..).1 h
    exact isUsable_of_reads (.of_run hrun) hsettled
  parts h halike := by
    obtain ⟨next, hparts, hsettled⟩ := (Option.any_eq_true ..).1 h
    obtain ⟨written, hwritten, hsame, hreads⟩ := reads_parts halike hparts
    exact ⟨written, hwritten, hsame, isUsable_of_reads hreads hsettled⟩

end DartLayers
