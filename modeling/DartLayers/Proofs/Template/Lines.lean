import DartLayers.Proofs.Merge.Again
import DartLayers.Proofs.Text.Names
import DartLayers.Template
import DartLayers.Text.Split

/-!
# DartLayers — the lines of a rendered template

Every line of a template ends in a line feed, so what a template renders to is a list of lines. It
is found part by part: templates one after the other render to the lines of both, and a loop to the
lines of its rounds. If no line holds a break of its own, the lines are read back from the text.

* **`Renders`** — a template renders to given lines in a context.
* **`Text.linesOf_ofLines`** — the lines that were written are the lines that are read.
-/

namespace DartLayers

namespace Text

/-! ## Lines of a text -/

/-- A text without a line break. -/
def IsLine (text : String) : Prop :=
  ∀ c ∈ text.toList, c ≠ '\n' ∧ c ≠ '\r'

instance (text : String) : Decidable (IsLine text) :=
  decidable_of_iff (text.toList.all fun c => c != '\n' && c != '\r') (by simp [IsLine])

/-- Lines one below the other, each with a line feed. -/
def ofLines : List String → String
  | [] => ""
  | line :: rest => line ++ "\n" ++ ofLines rest

/-- The pieces of a text between its line breaks. -/
def linesOf (text : String) : List (List Char) :=
  splitOn '\n' (normalizeBreaks text.toList)

@[simp] theorem isLine_append {text other : String} :
    IsLine (text ++ other) ↔ IsLine text ∧ IsLine other := by
  simp only [IsLine, String.toList_append, List.forall_mem_append]

theorem isLine_intercalate {separator : String} {pieces : List String} (hseparator : IsLine separator)
    (h : ∀ piece ∈ pieces, IsLine piece) : IsLine (separator.intercalate pieces) := by
  intro c hc
  rw [String.toList_intercalate] at hc
  rcases mem_intercalate hc with hbetween | ⟨piece, hpiece, hmem⟩
  · exact hseparator c hbetween
  · obtain ⟨text, htext, rfl⟩ := List.mem_map.1 hpiece
    exact h text htext c hmem

theorem ofLines_append (lines others : List String) :
    ofLines (lines ++ others) = ofLines lines ++ ofLines others := by
  induction lines with
  | nil => simp [ofLines]
  | cons line rest ih => simp only [List.cons_append, ofLines, ih, String.append_assoc]

theorem mem_ofLines {c : Char} {line : String} {lines : List String} (hline : line ∈ lines)
    (hc : c ∈ line.toList) : c ∈ (ofLines lines).toList := by
  induction lines with
  | nil => cases hline
  | cons first rest ih =>
    rw [ofLines, String.toList_append, String.toList_append, List.mem_append, List.mem_append]
    rcases List.mem_cons.1 hline with rfl | hrest
    · exact .inl (.inl hc)
    · exact .inr (ih hrest)

theorem splitOn_line {separator : Char} {line : List Char} (h : separator ∉ line)
    (rest : List Char) :
    splitOn separator (line ++ separator :: rest) = line :: splitOn separator rest := by
  induction line with
  | nil => simp [splitOn]
  | cons c line ih =>
    rw [List.mem_cons, not_or] at h
    rw [List.cons_append, splitOn, if_neg (Ne.symm h.1), ih h.2, consFirst]

/-- A text without a carriage return is read as it was written, whatever follows it. -/
theorem normalizeBreaks_append {text : List Char} (h : '\r' ∉ text) (rest : List Char) :
    normalizeBreaks (text ++ rest) = text ++ normalizeBreaks rest := by
  induction text with
  | nil => rfl
  | cons c text ih =>
    rw [List.mem_cons, not_or] at h
    rw [List.cons_append, normalizeBreaks.eq_3 _ _ fun _ heq => absurd heq.symm h.1,
      if_neg (Ne.symm h.1), ih h.2, List.cons_append]

/-- What is written line by line is read line by line, in front of anything. -/
theorem linesOf_ofLines_append {lines : List String} (h : ∀ line ∈ lines, IsLine line)
    (rest : String) :
    linesOf (ofLines lines ++ rest) = lines.map String.toList ++ linesOf rest := by
  induction lines with
  | nil => rw [ofLines, String.empty_append, List.map_nil, List.nil_append]
  | cons line lines ih =>
    rw [List.forall_mem_cons] at h
    have hreturn : '\r' ∉ line.toList ++ ['\n'] := by
      rw [List.mem_append, not_or]
      exact ⟨fun hmem => (h.1 _ hmem).2 rfl, by decide⟩
    have hfeed : '\n' ∉ line.toList := fun hmem => (h.1 _ hmem).1 rfl
    have htext : (ofLines (line :: lines) ++ rest).toList =
        line.toList ++ ['\n'] ++ (ofLines lines ++ rest).toList := by
      simp [ofLines]
    rw [linesOf, htext, normalizeBreaks_append hreturn, List.append_assoc, List.singleton_append,
      splitOn_line hfeed, ← linesOf, ih h.2, List.map_cons, List.cons_append]

/-- A line is a text of one line. -/
theorem linesOf_of_isLine {text : String} (h : IsLine text) : linesOf text = [text.toList] := by
  have hreturn : '\r' ∉ text.toList := fun hmem => (h _ hmem).2 rfl
  have hfeed : '\n' ∉ text.toList := fun hmem => (h _ hmem).1 rfl
  have hread : normalizeBreaks text.toList = text.toList := by
    have hnone := normalizeBreaks_append hreturn []
    rwa [List.append_nil, normalizeBreaks, List.append_nil] at hnone
  rw [linesOf, hread, splitOn_of_notMem hfeed]

/-- Nothing stands behind the last line feed. -/
theorem linesOf_ofLines {lines : List String} (h : ∀ line ∈ lines, IsLine line) :
    linesOf (ofLines lines) = lines.map String.toList ++ [[]] := by
  have hlines := linesOf_ofLines_append h ""
  rwa [String.append_empty] at hlines

end Text

/-! ## Rendering, part by part -/

theorem Line.renderAll_append (template other : List Line) (context : Context) :
    Line.renderAll (template ++ other) context = do
      return (← Line.renderAll template context) ++ (← Line.renderAll other context) := by
  induction template with
  | nil =>
    simp only [List.nil_append, Line.renderAll, bind, Except.bind, pure, Except.pure,
      String.empty_append]
    cases Line.renderAll other context <;> rfl
  | cons first rest ih =>
    simp only [List.cons_append, Line.renderAll, ih]
    -- the first fault counts on both sides
    cases Line.render first context with
    | error fault => rfl
    | ok firstText =>
      cases Line.renderAll rest context with
      | error fault => rfl
      | ok restText =>
        cases Line.renderAll other context with
        | error fault => rfl
        | ok otherText =>
          simp only [bind, Except.bind, pure, Except.pure, String.append_assoc]

namespace Line

/-- The heights of the rounds of a loop, together. -/
def sumRounds {α : Type} (height : α → Except TemplateFault Nat) : List α → Except TemplateFault Nat
  | [] => .ok 0
  | item :: rest => do return (← height item) + (← sumRounds height rest)

mutual

/-- The number of lines that a template line renders to. It depends on the conditions and on the
items of the loops, and on no other value. -/
def height : Line → Context → Except TemplateFault Nat
  | .text _, _ | .line _, _ => .ok 1
  | .choose condition yes no, context => do
    if ← condition.eval context then heightAll yes context else heightAll no context
  | .loop name items body, context => do
    let values ← loopItems (← (← items.eval context).get)
    sumRounds (fun value => heightAll body ((name, value) :: context)) values

/-- The number of lines that a template renders to. -/
def heightAll : List Line → Context → Except TemplateFault Nat
  | [], _ => .ok 0
  | first :: rest, context => do return (← first.height context) + (← heightAll rest context)

end

end Line

/-- A template renders to given lines in a context. -/
def Renders (template : List Line) (context : Context) (lines : List String) : Prop :=
  Line.renderAll template context = .ok (Text.ofLines lines)

namespace Renders

variable {template : List Line} {context : Context} {lines : List String}

theorem nil : Renders [] context [] := rfl

theorem text (literal : String) (h : Renders template context lines) :
    Renders (.text literal :: template) context (literal :: lines) := by
  rw [Renders] at h
  rw [Renders, Line.renderAll, Line.render, h, Text.ofLines]
  rfl

theorem line {parts : List Part} {written : String}
    (hparts : joinRendered (Part.render context) parts = .ok written)
    (h : Renders template context lines) :
    Renders (.line parts :: template) context (written :: lines) := by
  rw [Renders] at h
  rw [Renders, Line.renderAll, Line.render, hparts, h, Text.ofLines]
  rfl

theorem append {other : List Line} {others : List String} (h : Renders template context lines)
    (hother : Renders other context others) :
    Renders (template ++ other) context (lines ++ others) := by
  rw [Renders] at h hother
  rw [Renders, Line.renderAll_append, h, hother, Text.ofLines_append]
  rfl

theorem choose {condition : Condition} {yes no : List Line} {outcome : Bool}
    (hcondition : condition.eval context = .ok outcome)
    (h : Renders (if outcome then yes else no) context lines) :
    Renders [.choose condition yes no] context lines := by
  rw [Renders] at h
  rw [Renders, Line.renderAll, Line.render, hcondition]
  cases outcome <;> simp_all [Line.renderAll, bind, Except.bind, pure, Except.pure]

/-- A loop renders its body once for each item. -/
theorem loop {α : Type} {name : String} {items : Expr} {body : List Line} {values : List α}
    {value : α → Json} {round : α → List String}
    (hitems : items.eval context = .ok (.value (.array (values.map value))))
    (hbody : ∀ item ∈ values, Renders body ((name, value item) :: context) (round item)) :
    Renders [.loop name items body] context (values.flatMap round) := by
  have hrounds : joinRendered (fun item => Line.renderAll body ((name, item) :: context))
      (values.map value) = .ok (Text.ofLines (values.flatMap round)) := by
    clear hitems
    induction values with
    | nil => rfl
    | cons item rest ih =>
      have hfirst : Line.renderAll body ((name, value item) :: context) =
          .ok (Text.ofLines (round item)) := hbody item List.mem_cons_self
      have hrest := ih fun other hother => hbody other (List.mem_cons_of_mem _ hother)
      rw [List.map_cons, joinRendered, hfirst, hrest, List.flatMap_cons, Text.ofLines_append]
      rfl
  rw [Renders, Line.renderAll, Line.render, hitems]
  simp only [bind, Except.bind, Operand.get, loopItems, hrounds, Line.renderAll, pure, Except.pure,
    String.append_empty]

/-- A loop over one line renders to a line for each item. -/
theorem loop_line {α : Type} {name : String} {items : Expr} {parts : List Part} {values : List α}
    {value : α → Json} {written : α → String}
    (hitems : items.eval context = .ok (.value (.array (values.map value))))
    (hparts : ∀ item ∈ values,
      joinRendered (Part.render ((name, value item) :: context)) parts = .ok (written item)) :
    Renders [.loop name items [.line parts]] context (values.map written) := by
  rw [List.map_eq_flatMap]
  exact .loop hitems fun item hitem => .line (hparts item hitem) .nil

end Renders

end DartLayers
