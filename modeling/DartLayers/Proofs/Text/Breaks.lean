import DartLayers.Proofs.Template.Lines

/-!
# DartLayers — line breaks of texts

A text has its carriage returns and line feeds, and a text that is put together has those of its
pieces. Lines that are written one below the other have a break each besides.

* **`Text.breaks`**, **`Text.breaksOf`** — the line breaks of a text, and of several.
* **`Text.breaks_ofLines`** — those of lines that are written one below the other.
-/

namespace DartLayers.Text

/-- How many line breaks a text holds. -/
def breaks (text : String) : Nat :=
  countBreaks text.toList

@[simp] theorem breaks_append (text other : String) :
    breaks (text ++ other) = breaks text + breaks other := by
  rw [breaks, breaks, breaks, String.toList_append, countBreaks, List.countP_append]
  rfl

theorem breaks_eq_zero_iff {text : String} : breaks text = 0 ↔ IsLine text := by
  simp [breaks, countBreaks, IsLine, and_comm]

theorem IsLine.breaks_eq {text : String} (h : IsLine text) : breaks text = 0 :=
  breaks_eq_zero_iff.2 h

/-- The line breaks of texts, together. -/
def breaksOf (texts : List String) : Nat :=
  (texts.map breaks).sum

@[simp] theorem breaksOf_nil : breaksOf [] = 0 := rfl

@[simp] theorem breaksOf_cons (text : String) (texts : List String) :
    breaksOf (text :: texts) = breaks text + breaksOf texts := rfl

@[simp] theorem breaksOf_append (texts others : List String) :
    breaksOf (texts ++ others) = breaksOf texts + breaksOf others := by
  rw [breaksOf, List.map_append, List.sum_append]
  rfl

theorem breaksOf_flatMap {α : Type} (items : List α) (texts : α → List String) :
    breaksOf (items.flatMap texts) = (items.map fun item => breaksOf (texts item)).sum := by
  induction items with
  | nil => rfl
  | cons item rest ih => rw [List.flatMap_cons, breaksOf_append, ih, List.map_cons, List.sum_cons]

theorem breaksOf_eq_zero_iff {texts : List String} :
    breaksOf texts = 0 ↔ ∀ text ∈ texts, IsLine text := by
  induction texts with
  | nil => simp
  | cons text rest ih => rw [breaksOf_cons, Nat.add_eq_zero_iff, breaks_eq_zero_iff, ih, List.forall_mem_cons]

/-- **Lines one below the other** have a break each, and those that they hold. -/
theorem breaks_ofLines (lines : List String) :
    breaks (ofLines lines) = lines.length + breaksOf lines := by
  induction lines with
  | nil => rfl
  | cons line rest ih =>
    have hfeed : breaks "\n" = 1 := by decide
    rw [ofLines, breaks_append, breaks_append, hfeed, ih, breaksOf_cons, List.length_cons]
    omega

/-- Inside a literal a text has the breaks that it has outside. -/
@[simp] theorem breaks_escape (text : String) : breaks (Dart.escape text) = breaks text := by
  have hchars : ∀ chars : List Char, countBreaks (Dart.escapeChars chars) = countBreaks chars := by
    intro chars
    induction chars with
    | nil => rfl
    | cons c rest ih =>
      simp only [countBreaks] at ih
      rw [Dart.escapeChars]
      split <;> simp [countBreaks, List.countP_cons, ih]
  rw [breaks, Dart.escape, String.toList_ofList, hchars]
  rfl

@[simp] theorem isLine_escape {text : String} : IsLine (Dart.escape text) ↔ IsLine text := by
  rw [← breaks_eq_zero_iff, breaks_escape, breaks_eq_zero_iff]

end DartLayers.Text
