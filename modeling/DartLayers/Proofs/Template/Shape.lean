import DartLayers.Proofs.Template.Lines
import DartLayers.Template.Library
import Mathlib.Data.List.Forall2

/-!
# DartLayers — what a template reads

A template reads some members of its context and leaves the others alone. A shape lists the members
that may be read, down to leaves of which only a kind is known. A template that keeps to a shape can
be rendered in every context of the shape, and two contexts that agree where the shape looks render
to the same lines. What is checked of the lines on the way holds of every rendered line.

* **`Shape`**, **`Alike`** — the members that may be read, and the contexts that agree on them.
* **`Line.passesAll`** — the check of a template.
* **`Line.exists_renders_of_passesAll`** — what the check is good for.
-/

namespace DartLayers

/-! ## Shapes -/

/-- What may be read of a value: all of it, if it is a leaf of some kind or a known text; the items
of a list; some members of an object. -/
inductive Shape (κ : Type) where
  | leaf (kind : κ)
  | exactly (text : String)
  | list (item : Shape κ)
  | object (members : List (String × Shape κ))

variable {κ : Type}

namespace Shape

/-- Whether equal shapes make equal conditions: an object may have members that are not read. -/
def isClosed : Shape κ → Bool
  | .object _ => false
  | _ => true

/-- Whether all of a value is read when it is put into the text. -/
def isLeaf : Shape κ → Bool
  | .leaf _ | .exactly _ => true
  | _ => false

end Shape

/-- Two values that agree on a shape; `Holds` says what a leaf of some kind is like. -/
inductive Alike (Holds : κ → Json → Prop) : Shape κ → Json → Json → Prop
  | leaf {kind : κ} {value : Json} (h : Holds kind value) : Alike Holds (.leaf kind) value value
  | exactly (text : String) : Alike Holds (.exactly text) (.string text) (.string text)
  | list {item : Shape κ} {values others : List Json} (hlength : values.length = others.length)
      (h : ∀ {value other : Json}, (value, other) ∈ values.zip others →
        Alike Holds item value other) :
      Alike Holds (.list item) (.array values) (.array others)
  | object {members : List (String × Shape κ)} {value other : Json}
      (hvalue : ∀ key shape, members.lookup key = some shape → value.member? key ≠ none)
      (hother : ∀ key shape, members.lookup key = some shape → other.member? key ≠ none)
      (h : ∀ key shape found also, members.lookup key = some shape →
        value.member? key = some found → other.member? key = some also →
        Alike Holds shape found also) :
      Alike Holds (.object members) value other

section

variable {Holds : κ → Json → Prop}

namespace Alike

/-- A leaf is the same on both sides. -/
theorem eq_of_isLeaf {shape : Shape κ} {value other : Json} (h : Alike Holds shape value other)
    (hleaf : shape.isLeaf = true) : value = other := by
  cases h with
  | leaf | exactly => rfl
  | list | object => cases hleaf

theorem forall₂_of_list {item : Shape κ} {value other : Json}
    (h : Alike Holds (.list item) value other) :
    ∃ values others, value = .array values ∧ other = .array others ∧
      List.Forall₂ (Alike Holds item) values others := by
  cases h with
  | @list _ values others hlength h =>
    exact ⟨values, others, rfl, rfl, List.forall₂_iff_zip.2 ⟨hlength, h⟩⟩

theorem of_forall₂ {item : Shape κ} {values others : List Json}
    (h : List.Forall₂ (Alike Holds item) values others) :
    Alike Holds (.list item) (.array values) (.array others) :=
  .list h.length_eq fun hpair => (List.forall₂_iff_zip.1 h).2 hpair

/-- A list agrees with itself if each of its items does. -/
theorem map {α : Type} {item : Shape κ} {toValue : α → Json} {items : List α}
    (h : ∀ made ∈ items, Alike Holds item (toValue made) (toValue made)) :
    Alike Holds (.list item) (.array (items.map toValue)) (.array (items.map toValue)) := by
  refine .of_forall₂ ?_
  rw [List.forall₂_map_left_iff, List.forall₂_map_right_iff, List.forall₂_same]
  exact h

/-- Lists of leaves are the same on both sides. -/
theorem eq_of_list {kind : κ} {value other : Json}
    (h : Alike Holds (.list (.leaf kind)) value other) : value = other := by
  obtain ⟨values, others, rfl, rfl, hitems⟩ := h.forall₂_of_list
  have hequal : List.Forall₂ Eq values others := hitems.imp fun _ _ hitem => hitem.eq_of_isLeaf rfl
  rw [List.forall₂_eq_eq_eq] at hequal
  rw [hequal]

/-- What counts as true on one side does so on the other. -/
theorem isTruthy_eq {shape : Shape κ} {value other : Json} (h : Alike Holds shape value other)
    (hclosed : shape.isClosed = true) : value.isTruthy = other.isTruthy := by
  cases h with
  | leaf | exactly => rfl
  | @list _ values others hlength _ =>
    cases values <;> cases others <;> first | rfl | cases hlength
  | object => cases hclosed

/-- A listed member is there on both sides, and agrees. -/
theorem member {members : List (String × Shape κ)} {value other : Json}
    (h : Alike Holds (.object members) value other) {key : String} {shape : Shape κ}
    (hshape : members.lookup key = some shape) :
    ∃ found also, value.member? key = some found ∧ other.member? key = some also ∧
      Alike Holds shape found also := by
  cases h with
  | object hvalue hother hmembers =>
    obtain ⟨found, hfound⟩ := Option.ne_none_iff_exists'.1 (hvalue key shape hshape)
    obtain ⟨also, halso⟩ := Option.ne_none_iff_exists'.1 (hother key shape hshape)
    exact ⟨found, also, hfound, halso, hmembers key shape found also hshape hfound halso⟩

theorem of_member {members : List (String × Shape κ)} {value other : Json}
    (h : ∀ key shape, members.lookup key = some shape → ∃ found also,
      value.member? key = some found ∧ other.member? key = some also ∧
        Alike Holds shape found also) :
    Alike Holds (.object members) value other := by
  refine .object (fun key shape hshape => ?_) (fun key shape hshape => ?_)
    fun key shape found also hshape hfound halso => ?_ <;>
  obtain ⟨found', also', hfound', halso', hmember⟩ := h key shape hshape
  · simp [hfound']
  · simp [halso']
  · rw [hfound'] at hfound
    rw [halso'] at halso
    cases hfound
    cases halso
    exact hmember

/-- Objects agree if each of the listed members does. -/
theorem of_forall {members : List (String × Shape κ)} {value other : Json}
    (h : ∀ member ∈ members, ∃ found also, value.member? member.1 = some found ∧
      other.member? member.1 = some also ∧ Alike Holds member.2 found also) :
    Alike Holds (.object members) value other := by
  refine of_member fun key shape hshape => ?_
  obtain ⟨front, back, hmembers, -⟩ := List.lookup_eq_some_iff.1 hshape
  exact h (key, shape) (by simp [hmembers])

/-- One more name is bound, to values that agree. -/
theorem bind {shapes : List (String × Shape κ)} {context other : Context}
    (h : Alike Holds (.object shapes) (.object context) (.object other)) (name : String)
    {shape : Shape κ} {found also : Json} (hvalue : Alike Holds shape found also) :
    Alike Holds (.object ((name, shape) :: shapes)) (.object ((name, found) :: context))
      (.object ((name, also) :: other)) := by
  refine of_member fun key inner hinner => ?_
  simp only [Json.member?, List.lookup_cons] at hinner ⊢
  cases hkey : key == name with
  | true =>
    rw [hkey] at hinner
    cases hinner
    exact ⟨found, also, rfl, rfl, hvalue⟩
  | false =>
    rw [hkey] at hinner
    exact h.member hinner

end Alike

/-! ## Expressions and conditions -/

/-- The shape of what an expression denotes. -/
def Expr.shape? (shapes : List (String × Shape κ)) : Expr → Option (Shape κ)
  | .name key => shapes.lookup key
  | .member owner key =>
    match owner.shape? shapes with
    | some (.object members) => members.lookup key
    | _ => none
  | .texts _ => none

/-- The shapes of the items that a loop over an expression meets. -/
def Expr.rounds? (shapes : List (String × Shape κ)) : Expr → Option (List (Shape κ))
  | .texts items => some (items.map .exactly)
  | expr =>
    match expr.shape? shapes with
    | some (.list item) => some [item]
    | _ => none

/-- Whether a condition is decided by what may be read. -/
def Condition.fits (shapes : List (String × Shape κ)) : Condition → Bool
  | .holds expr | .equals expr _ => (expr.shape? shapes).any Shape.isClosed

variable {shapes : List (String × Shape κ)} {context other : Context}

/-- What an expression with a shape denotes is there, and agrees. -/
theorem Expr.eval_alike (h : Alike Holds (.object shapes) (.object context) (.object other)) :
    {expr : Expr} → {shape : Shape κ} → expr.shape? shapes = some shape →
      ∃ found also, expr.eval context = .ok (.value found) ∧ expr.eval other = .ok (.value also) ∧
        Alike Holds shape found also
  | .name key, shape, hshape => by
    obtain ⟨found, also, hfound, halso, hvalue⟩ := h.member hshape
    rw [Json.member?] at hfound halso
    exact ⟨found, also, by rw [eval, hfound], by rw [eval, halso], hvalue⟩
  | .member owner key, shape, hshape => by
    rw [shape?] at hshape
    split at hshape
    · rename_i members howner
      obtain ⟨object, also, hobject, halso, hvalue⟩ := eval_alike h howner
      obtain ⟨found, same, hfound, hsame, hmember⟩ := hvalue.member hshape
      refine ⟨found, same, ?_, ?_, hmember⟩
      · simp [eval, hobject, hfound, bind, Except.bind]
      · simp [eval, halso, hsame, bind, Except.bind]
    · cases hshape
  | .texts _, _, hshape => by cases hshape

/-- A condition is decided in the same way on both sides. -/
theorem Condition.eval_alike (h : Alike Holds (.object shapes) (.object context) (.object other))
    {condition : Condition} (hfits : condition.fits shapes = true) :
    ∃ outcome, condition.eval context = .ok outcome ∧ condition.eval other = .ok outcome := by
  cases condition with
  | holds expr =>
    obtain ⟨shape, hshape, hclosed⟩ := (Option.any_eq_true ..).1 hfits
    obtain ⟨found, also, hfound, halso, hvalue⟩ := Expr.eval_alike h hshape
    refine ⟨found.isTruthy, ?_, ?_⟩
    · simp [eval, hfound, Operand.get, bind, Except.bind, pure, Except.pure]
    · simp [eval, halso, hvalue.isTruthy_eq hclosed, Operand.get, bind, Except.bind, pure,
        Except.pure]
  | equals expr text =>
    obtain ⟨shape, hshape, hclosed⟩ := (Option.any_eq_true ..).1 hfits
    obtain ⟨found, also, hfound, halso, hvalue⟩ := Expr.eval_alike h hshape
    rw [eval, eval, hfound, halso]
    cases hvalue with
    | @leaf kind => cases found <;> exact ⟨_, rfl, rfl⟩
    | exactly found => exact ⟨found == text, rfl, rfl⟩
    | list => exact ⟨false, rfl, rfl⟩
    | object => cases hclosed

/-- A loop meets as many items on both sides, and they agree one by one. -/
theorem Expr.rounds_alike (h : Alike Holds (.object shapes) (.object context) (.object other))
    {expr : Expr} {rounds : List (Shape κ)} (hrounds : expr.rounds? shapes = some rounds) :
    ∃ values others, expr.eval context = .ok (.value (.array values)) ∧
      expr.eval other = .ok (.value (.array others)) ∧
      List.Forall₂ (fun value also => ∃ shape ∈ rounds, Alike Holds shape value also)
        values others := by
  unfold rounds? at hrounds
  split at hrounds
  · rename_i items
    cases hrounds
    refine ⟨items.map .string, items.map .string, rfl, rfl, ?_⟩
    rw [List.forall₂_map_left_iff, List.forall₂_map_right_iff, List.forall₂_same]
    exact fun item hitem => ⟨.exactly item, List.mem_map_of_mem hitem, .exactly item⟩
  · split at hrounds
    · rename_i item hshape
      cases hrounds
      obtain ⟨found, also, hfound, halso, hvalue⟩ := eval_alike h hshape
      obtain ⟨values, others, rfl, rfl, hitems⟩ := hvalue.forall₂_of_list
      exact ⟨values, others, hfound, halso,
        hitems.imp fun _ _ hpair => ⟨item, List.mem_singleton_self item, hpair⟩⟩
    · cases hrounds

/-! ## Lines -/

/-- What is asked of the lines of a template: of those that are literal, and of those that are put
together from parts in contexts of a shape. -/
structure LineTest (κ : Type) where
  text : String → Bool
  parts : List (String × Shape κ) → List Part → Bool

/-- Parts that pass a test are rendered in contexts of the shape, and alike; every line that passes
is good. -/
structure LineTest.Sound (test : LineTest κ) (Holds : κ → Json → Prop) (Good : String → Prop) :
    Prop where
  text : ∀ {literal : String}, test.text literal = true → Good literal
  parts : ∀ {shapes : List (String × Shape κ)} {context other : Context} {parts : List Part},
    test.parts shapes parts = true →
      Alike Holds (.object shapes) (.object context) (.object other) →
      ∃ written, joinRendered (Part.render context) parts = .ok written ∧
        joinRendered (Part.render other) parts = .ok written ∧ Good written

namespace Line

mutual

/-- Whether a line keeps to a shape and passes a test, whatever the conditions in it say. -/
def passes (test : LineTest κ) : Line → List (String × Shape κ) → Bool
  | .text literal, _ => test.text literal
  | .line parts, shapes => test.parts shapes parts
  | .choose condition yes no, shapes =>
    condition.fits shapes && passesAll test yes shapes && passesAll test no shapes
  | .loop name items body, shapes =>
    match items.rounds? shapes with
    | some rounds => rounds.all fun shape => passesAll test body ((name, shape) :: shapes)
    | none => false

/-- Whether every line of a template does. -/
def passesAll (test : LineTest κ) : List Line → List (String × Shape κ) → Bool
  | [], _ => true
  | first :: rest, shapes => passes test first shapes && passesAll test rest shapes

end

/-- The rounds of a loop, one after the other. -/
theorem exists_rounds {Good : String → Prop} {name : String} {body : List Line}
    {values others : List Json}
    (h : List.Forall₂ (fun value also => ∃ lines,
      Renders body ((name, value) :: context) lines ∧ Renders body ((name, also) :: other) lines ∧
        heightAll body ((name, value) :: context) = .ok lines.length ∧
        ∀ line ∈ lines, Good line) values others) :
    ∃ lines,
      joinRendered (fun value => renderAll body ((name, value) :: context)) values =
        .ok (Text.ofLines lines) ∧
      joinRendered (fun value => renderAll body ((name, value) :: other)) others =
        .ok (Text.ofLines lines) ∧
      sumRounds (fun value => heightAll body ((name, value) :: context)) values =
        .ok lines.length ∧ ∀ line ∈ lines, Good line := by
  induction h with
  | nil => exact ⟨[], rfl, rfl, rfl, by simp⟩
  | cons hfirst _ ih =>
    obtain ⟨lines, hlines, halso, hheight, hgood⟩ := hfirst
    obtain ⟨behind, hbehind, hsame, hsum, hrest⟩ := ih
    rw [Renders] at hlines halso
    refine ⟨lines ++ behind, ?_, ?_, ?_, List.forall_mem_append.2 ⟨hgood, hrest⟩⟩
    · rw [joinRendered, hlines, hbehind, Text.ofLines_append]
      rfl
    · rw [joinRendered, halso, hsame, Text.ofLines_append]
      rfl
    · rw [sumRounds, hheight, hsum, List.length_append]
      rfl

mutual

theorem exists_renders_of_passes {test : LineTest κ} {Good : String → Prop}
    (hsound : test.Sound Holds Good) :
    {line : Line} → {shapes : List (String × Shape κ)} → {context other : Context} →
      line.passes test shapes = true →
      Alike Holds (.object shapes) (.object context) (.object other) →
      ∃ lines, Renders [line] context lines ∧ Renders [line] other lines ∧
        line.height context = .ok lines.length ∧ ∀ written ∈ lines, Good written
  | .text literal, _, _, _, hpasses, _ =>
    ⟨[literal], .text literal .nil, .text literal .nil, rfl,
      List.forall_mem_singleton.2 (hsound.text hpasses)⟩
  | .line parts, _, _, _, hpasses, halike => by
    obtain ⟨written, hwritten, halso, hgood⟩ := hsound.parts hpasses halike
    exact ⟨[written], .line hwritten .nil, .line halso .nil, rfl,
      List.forall_mem_singleton.2 hgood⟩
  | .choose condition yes no, _, _, _, hpasses, halike => by
    rw [passes, Bool.and_eq_true, Bool.and_eq_true] at hpasses
    obtain ⟨⟨hcondition, hyes⟩, hno⟩ := hpasses
    obtain ⟨outcome, houtcome, hsame⟩ := Condition.eval_alike halike hcondition
    cases outcome with
    | true =>
      obtain ⟨lines, hlines, halso, hheight, hgood⟩ := exists_renders_of_passesAll hsound hyes halike
      refine ⟨lines, .choose houtcome hlines, .choose hsame halso, ?_, hgood⟩
      rw [height, houtcome]
      exact hheight
    | false =>
      obtain ⟨lines, hlines, halso, hheight, hgood⟩ := exists_renders_of_passesAll hsound hno halike
      refine ⟨lines, .choose houtcome hlines, .choose hsame halso, ?_, hgood⟩
      rw [height, houtcome]
      exact hheight
  -- Both contexts go round equally often, with values of the same shapes.
  | .loop name items body, shapes, context, other, hpasses, halike => by
    rw [passes] at hpasses
    split at hpasses
    · rename_i rounds hrounds
      obtain ⟨values, others, hvalues, hothers, hpairs⟩ := Expr.rounds_alike halike hrounds
      have hbody : ∀ shape ∈ rounds, passesAll test body ((name, shape) :: shapes) = true :=
        List.all_eq_true.1 hpasses
      have hitems := hpairs.imp fun value also ⟨shape, hshape, hvalue⟩ =>
        exists_renders_of_passesAll hsound (hbody shape hshape) (halike.bind name hvalue)
      obtain ⟨lines, hlines, halso, hsum, hgood⟩ := exists_rounds hitems
      refine ⟨lines, ?_, ?_, ?_, hgood⟩
      · rw [Renders, renderAll, render, hvalues]
        simp only [bind, Except.bind, Operand.get, loopItems, hlines, renderAll, pure, Except.pure,
          String.append_empty]
      · rw [Renders, renderAll, render, hothers]
        simp only [bind, Except.bind, Operand.get, loopItems, halso, renderAll, pure, Except.pure,
          String.append_empty]
      · rw [height, hvalues]
        exact hsum
    · cases hpasses

/-- **A template that passes a test renders**, to the same good lines in contexts that agree on its
shape, and to as many as its height says. -/
theorem exists_renders_of_passesAll {test : LineTest κ} {Good : String → Prop}
    (hsound : test.Sound Holds Good) :
    {template : List Line} → {shapes : List (String × Shape κ)} → {context other : Context} →
      passesAll test template shapes = true →
      Alike Holds (.object shapes) (.object context) (.object other) →
      ∃ lines, Renders template context lines ∧ Renders template other lines ∧
        heightAll template context = .ok lines.length ∧ ∀ written ∈ lines, Good written
  | [], _, _, _, _, _ => ⟨[], .nil, .nil, rfl, by simp⟩
  | first :: rest, _, _, _, hpasses, halike => by
    rw [passesAll, Bool.and_eq_true] at hpasses
    obtain ⟨lines, hlines, halso, hheight, hgood⟩ := exists_renders_of_passes hsound hpasses.1 halike
    obtain ⟨behind, hbehind, hsame, hsum, hrest⟩ :=
      exists_renders_of_passesAll hsound hpasses.2 halike
    refine ⟨lines ++ behind, .append hlines hbehind, .append halso hsame, ?_,
      List.forall_mem_append.2 ⟨hgood, hrest⟩⟩
    rw [heightAll, hheight, hsum, List.length_append]
    rfl

end

end Line

end

/-! ## Plain reading -/

/-- What a template asks of a leaf: a literal takes a text, every other place takes any value. -/
inductive LeafKind where
  | any
  | text
  deriving DecidableEq

/-- What a leaf of a kind is like. -/
def LeafKind.Holds : LeafKind → Json → Prop
  | .any, _ => True
  | .text, value => ∃ text, value = .string text

/-- Whether values of a shape can be put into the text in a form. -/
def Shape.takes : Shape LeafKind → Form → Bool
  | .leaf kind, .dartString => kind == .text
  | .leaf _, .plain | .leaf _, .lowerCase | .exactly _, .plain => true
  | .list (.leaf _), .joined _ => true
  | _, _ => false

/-- Whether the value of a part may be read, and can be put into the text in its form. -/
def Part.fits (shapes : List (String × Shape LeafKind)) : Part → Bool
  | .text _ => true
  | .put expr form => (expr.shape? shapes).any (·.takes form)

/-- The parts of a line fit; nothing is asked of its text. -/
def plainTest : LineTest LeafKind where
  text _ := true
  parts shapes parts := parts.all (Part.fits shapes)

/-- Values that agree are put into the text as the same text. -/
theorem Alike.apply_of_takes {shape : Shape LeafKind} {value other : Json}
    (h : Alike LeafKind.Holds shape value other) {form : Form} (htakes : shape.takes form = true) :
    ∃ text, form.apply (.value value) = .ok text ∧ form.apply (.value other) = .ok text := by
  unfold Shape.takes at htakes
  split at htakes
  · cases h with
    | leaf hholds =>
      rw [beq_iff_eq] at htakes
      subst htakes
      obtain ⟨text, rfl⟩ := hholds
      exact ⟨_, rfl, rfl⟩
  · cases h with
    | leaf => exact ⟨_, rfl, rfl⟩
  · cases h with
    | leaf => exact ⟨_, rfl, rfl⟩
  · cases h with
    | exactly => exact ⟨_, rfl, rfl⟩
  · cases h.eq_of_list
    obtain ⟨values, others, rfl, -, -⟩ := h.forall₂_of_list
    exact ⟨_, rfl, rfl⟩
  · cases htakes

section

variable {shapes : List (String × Shape LeafKind)} {context other : Context}

/-- A part that fits has a text, the same in contexts that agree. -/
theorem Part.render_alike
    (h : Alike LeafKind.Holds (.object shapes) (.object context) (.object other)) {part : Part}
    (hfits : part.fits shapes = true) :
    ∃ text, part.render context = .ok text ∧ part.render other = .ok text := by
  cases part with
  | text literal => exact ⟨literal, rfl, rfl⟩
  | put expr form =>
    obtain ⟨shape, hshape, htakes⟩ := (Option.any_eq_true ..).1 hfits
    obtain ⟨found, also, hfound, halso, hvalue⟩ := Expr.eval_alike h hshape
    obtain ⟨text, htext, hsame⟩ := hvalue.apply_of_takes htakes
    refine ⟨text, ?_, ?_⟩
    · rw [render, hfound]
      exact htext
    · rw [render, halso]
      exact hsame

theorem plainTest_sound : plainTest.Sound LeafKind.Holds fun _ => True where
  text _ := trivial
  parts := by
    intro shapes context other parts hparts h
    induction parts with
    | nil => exact ⟨"", rfl, rfl, trivial⟩
    | cons part rest ih =>
      obtain ⟨hpart, hrest⟩ := Bool.and_eq_true_iff.1 (List.all_cons.symm.trans hparts)
      obtain ⟨text, htext, halso⟩ := Part.render_alike h hpart
      obtain ⟨behind, hbehind, hsame, -⟩ := ih hrest
      refine ⟨text ++ behind, ?_, ?_, trivial⟩
      · rw [joinRendered, htext, hbehind]
        rfl
      · rw [joinRendered, halso, hsame]
        rfl

/-- **A template that reads no more than its shape** has a text in every context of the shape, and
the same text in contexts that agree on it. -/
theorem renderTemplate_alike {path : String} {template : List Line}
    (hfind : Template.find? path = some template)
    (hpasses : Line.passesAll plainTest template shapes = true)
    (h : Alike LeafKind.Holds (.object shapes) (.object context) (.object other)) :
    ∃ text, renderTemplate path context = .ok text ∧ renderTemplate path other = .ok text := by
  obtain ⟨lines, hlines, halso, -, -⟩ := Line.exists_renders_of_passesAll plainTest_sound hpasses h
  refine ⟨Text.ofLines lines, ?_, ?_⟩
  · rw [renderTemplate, hfind]
    exact hlines
  · rw [renderTemplate, hfind]
    exact halso

end

end DartLayers
