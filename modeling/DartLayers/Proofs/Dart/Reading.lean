import DartLayers.Proofs.Dart.Names

/-!
# DartLayers — names in lines that are put together

Which classes a generated line may name is found by reading the line piece by piece, without knowing
all of the pieces. What has been read is kept as a sketch: the mode of the reader, and what is known
of the name that it is in. The classes of a feature are told apart by how their names begin and end.

* **`ClassKind`**, **`IsFine`** — the classes of a feature, and names of none but visible ones.
* **`Sketch.run`** — reading a known piece from a sketch.
* **`Reads`** — what holds of every line that starts with a piece; pieces follow one another.
-/

namespace DartLayers.Dart

/-! ## Kinds of classes -/

/-- The classes of a feature that one of its files may use of another. -/
inductive ClassKind where
  | entity
  | model
  | repository
  | dataSource
  | params
  deriving DecidableEq

/-- How the names of the kinds end, last character first. -/
def endings : List (List Char × ClassKind) := [
  (['y', 't', 'i', 't'], .entity),
  (['l', 'e', 'd', 'o'], .model),
  (['y', 'r', 'o', 't'], .repository),
  (['e', 'c', 'r', 'u'], .dataSource),
  (['s', 'm', 'a', 'r'], .params)]

/-- The kind that the end of a name shows; the last character stands first. -/
def endKind? (name : List Char) : Option ClassKind :=
  endings.lookup (name.take 4)

/-- The kind of class that a name spells: it begins with a capital. -/
def kindOf? (name : List Char) : Option ClassKind :=
  if name.getLast?.any Char.isUpper then endKind? name else none

/-- Whether a name spells a visible kind of class, or none. -/
def isFine (visible : List ClassKind) (name : List Char) : Bool :=
  (kindOf? name).all visible.contains

/-- A name that spells a visible kind of class, or none. -/
def IsFine (visible : List ClassKind) (name : String) : Prop :=
  isFine visible name.toList.reverse = true

/-! ## Sketches -/

/-- What is known of a name that is being read: all of its characters, that it begins with no
capital, a class of which kind it begins with and what follows, or that it may end here. -/
inductive NameSketch where
  | exactly (chars : List Char)
  | small
  | made (kind : ClassKind) (behind : List Char)
  | settled
  deriving DecidableEq

namespace NameSketch

/-- The names that a sketch is of, last character first. -/
def Holds (visible : List ClassKind) : NameSketch → List Char → Prop
  | .exactly chars, name => name = chars
  | .small, name => ∃ c, name.getLast? = some c ∧ c.isUpper = false
  | .made kind behind, name => ∃ front, name = behind ++ front ∧ kindOf? front = some kind
  | .settled, name => isFine visible name = true

/-- What is known with one more character. -/
def push : NameSketch → Char → Option NameSketch
  | .exactly chars, c => some (.exactly (c :: chars))
  | .small, _ => some .small
  | .made kind behind, c => some (.made kind (c :: behind))
  | .settled, _ => none

/-- Whether a name may end. -/
def isSettled (visible : List ClassKind) : NameSketch → Bool
  | .exactly chars => isFine visible chars
  | .small | .settled => true
  | .made kind [] => visible.contains kind
  | .made _ behind => 4 ≤ behind.length && (endKind? behind).all visible.contains

end NameSketch

/-- What is known of a reader: its mode, and the name that it is in. -/
structure Sketch where
  mode : Mode
  name : NameSketch
  deriving DecidableEq

namespace Sketch

/-- A reader in code, in no name. -/
def start : Sketch := ⟨.code, .exactly []⟩

/-- A reader in code, in a name that may end. -/
def done : Sketch := ⟨.code, .settled⟩

/-- What is known behind a character. There is nothing behind a line break and behind a name that
must not end. -/
def step (visible : List ClassKind) (sketch : Sketch) (c : Char) : Option Sketch :=
  if c == '\n' || c == '\r' then none
  else if sketch.mode.isOpen && isNameChar c then
    (sketch.name.push c).map fun name => ⟨sketch.mode.next c, name⟩
  else if sketch.name.isSettled visible then some ⟨sketch.mode.next c, .exactly []⟩
  else none

/-- What is known behind a text. -/
def run (visible : List ClassKind) : Sketch → List Char → Option Sketch
  | sketch, [] => some sketch
  | sketch, c :: rest => (sketch.step visible c).bind fun next => run visible next rest

end Sketch

variable {visible : List ClassKind}

theorem isFine_nil : isFine visible [] = true := rfl

namespace NameSketch

/-- A name that may end is fine. -/
theorem isFine_of_isSettled {sketch : NameSketch} (hsettled : sketch.isSettled visible = true)
    {name : List Char} (h : sketch.Holds visible name) : isFine visible name = true := by
  cases sketch with
  | exactly chars =>
    cases h
    exact hsettled
  | small =>
    obtain ⟨c, hlast, hupper⟩ := h
    rw [isFine, kindOf?, hlast, Option.any_some, hupper]
    rfl
  | settled => exact h
  | made kind behind =>
    obtain ⟨front, rfl, hkind⟩ := h
    cases behind with
    | nil =>
      rw [List.nil_append, isFine, hkind]
      exact hsettled
    | cons c behind =>
      rw [isSettled, Bool.and_eq_true, decide_eq_true_eq] at hsettled
      · have hend : endKind? (c :: behind ++ front) = endKind? (c :: behind) := by
          rw [endKind?, List.take_append_of_le_length hsettled.1, endKind?]
        rw [isFine, kindOf?, hend]
        split
        · exact hsettled.2
        · rfl
      · exact List.cons_ne_nil c behind

/-- One more character is known of a name. -/
theorem holds_push {sketch next : NameSketch} {c : Char} (hpush : sketch.push c = some next)
    {name : List Char} (h : sketch.Holds visible name) : next.Holds visible (c :: name) := by
  cases sketch with
  | exactly chars =>
    cases hpush
    cases h
    rfl
  | small =>
    cases hpush
    obtain ⟨first, hlast, hupper⟩ := h
    refine ⟨first, ?_, hupper⟩
    rw [List.getLast?_cons, hlast]
    rfl
  | made kind behind =>
    cases hpush
    obtain ⟨front, rfl, hkind⟩ := h
    exact ⟨front, rfl, hkind⟩
  | settled => cases hpush

end NameSketch

/-! ## Reading pieces -/

/-- Reading a piece takes a reader from one sketch to another: the piece has no line break, and names
of a line that goes on behind it are fine if they are fine from there on. -/
structure Reads (visible : List ClassKind) (before : Sketch) (piece : List Char) (after : Sketch) :
    Prop where
  unbroken : ∀ c ∈ piece, c ≠ '\n' ∧ c ≠ '\r'
  fine : ∀ {name rest : List Char}, before.name.Holds visible name →
    (∀ reached, after.name.Holds visible reached →
      ∀ found ∈ namesFrom after.mode reached rest, IsFine visible found) →
    ∀ found ∈ namesFrom before.mode name (piece ++ rest), IsFine visible found

namespace Reads

variable {before middle after : Sketch} {piece : List Char}

theorem nil (sketch : Sketch) : Reads visible sketch [] sketch where
  unbroken := nofun
  fine hname hrest := hrest _ hname

theorem append {others : List Char} (h : Reads visible before piece middle)
    (hothers : Reads visible middle others after) : Reads visible before (piece ++ others) after where
  unbroken := List.forall_mem_append.2 ⟨h.unbroken, hothers.unbroken⟩
  fine hname hrest := by
    rw [List.append_assoc]
    exact h.fine hname fun _ hreached => hothers.fine hreached hrest

/-- Less may be said of the name that a piece ends in. -/
theorem weaken {mode : Mode} {name other : NameSketch} (h : Reads visible before piece ⟨mode, name⟩)
    (hless : ∀ reached, name.Holds visible reached → other.Holds visible reached) :
    Reads visible before piece ⟨mode, other⟩ where
  unbroken := h.unbroken
  fine hname hrest := h.fine hname fun reached hreached => hrest reached (hless reached hreached)

theorem settle {mode : Mode} {name : NameSketch} (h : Reads visible before piece ⟨mode, name⟩)
    (hsettled : name.isSettled visible = true) :
    Reads visible before piece ⟨mode, .settled⟩ :=
  h.weaken fun _ hreached => NameSketch.isFine_of_isSettled hsettled hreached

theorem of_step {c : Char} (h : before.step visible c = some after) :
    Reads visible before [c] after := by
  rw [Sketch.step] at h
  split at h
  · cases h
  rename_i hbreak
  refine ⟨by simpa using hbreak, fun {name rest} hname hrest => ?_⟩
  rw [List.singleton_append, namesFrom]
  split at h
  · rename_i hopen
    obtain ⟨next, hpush, rfl⟩ := Option.map_eq_some_iff.1 h
    rw [if_pos hopen]
    exact hrest _ (NameSketch.holds_push hpush hname)
  · rename_i hclosed
    rw [if_neg hclosed, List.forall_mem_cons]
    split at h
    · rename_i hsettled
      cases h
      refine ⟨?_, hrest [] rfl⟩
      rw [IsFine, String.toList_ofList, List.reverse_reverse]
      exact NameSketch.isFine_of_isSettled hsettled hname
    · cases h

/-- **A known piece is read by running through it.** -/
theorem of_run (h : before.run visible piece = some after) : Reads visible before piece after := by
  induction piece generalizing before with
  | nil =>
    cases h
    exact .nil _
  | cons c piece ih =>
    obtain ⟨next, hstep, hrest⟩ := Option.bind_eq_some_iff.1 h
    exact .append (.of_step hstep) (ih hrest)

/-- **The names of a line that has been read are fine.** -/
theorem isFine_of_mem_lineNames (h : Reads visible .start piece after)
    (hsettled : after.name.isSettled visible = true) :
    ∀ found ∈ lineNames piece, IsFine visible found := by
  intro found hfound
  have hnames : ∀ found ∈ namesFrom .code [] (piece ++ []), IsFine visible found := by
    refine h.fine rfl fun reached hreached name hname => ?_
    rw [namesFrom, List.mem_singleton] at hname
    rw [hname, IsFine, String.toList_ofList, List.reverse_reverse]
    exact NameSketch.isFine_of_isSettled hsettled hreached
  rw [List.append_nil] at hnames
  exact hnames found (List.mem_of_mem_filter hfound)

/-! ### Pieces that are not known -/

/-- What leaves the reader where it is, character by character, leaves it there. -/
theorem of_forall_step {sketch : Sketch} (h : ∀ c ∈ piece, sketch.step visible c = some sketch) :
    Reads visible sketch piece sketch := by
  induction piece with
  | nil => exact .nil sketch
  | cons c piece ih =>
    rw [List.forall_mem_cons] at h
    exact .append (.of_step h.1) (ih h.2)

/-- A comment may say anything. -/
theorem comment (h : ∀ c ∈ piece, c ≠ '\n' ∧ c ≠ '\r') :
    Reads visible ⟨.comment, .exactly []⟩ piece ⟨.comment, .exactly []⟩ := by
  refine .of_forall_step fun c hc => ?_
  obtain ⟨hfeed, hreturn⟩ := h c hc
  simp [Sketch.step, hfeed, hreturn, Mode.isOpen, Mode.next, NameSketch.isSettled, isFine_nil]

section

variable {quote : Char} (hquote : quote = '\'' ∨ quote = '"')

include hquote

/-- The characters of a name say nothing in a literal. -/
theorem literal_word (h : ∀ c ∈ piece, isNameChar c = true) :
    Reads visible ⟨.literal quote, .exactly []⟩ piece ⟨.literal quote, .exactly []⟩ := by
  refine .of_forall_step fun c hc => ?_
  have hplain : c ≠ '\n' ∧ c ≠ '\r' ∧ c ≠ '\\' ∧ c ≠ '$' ∧ c ≠ quote := by
    have hname := h c hc
    refine ⟨?_, ?_, ?_, ?_, ?_⟩ <;> rintro rfl
    iterate 4 exact absurd hname (by decide)
    rcases hquote with rfl | rfl <;> exact absurd hname (by decide)
  simp [Sketch.step, hplain, Mode.isOpen, Mode.next, NameSketch.isSettled, isFine_nil]

/-- A text that was written into a literal stays there. -/
theorem literal_escape {text : List Char} (h : ∀ c ∈ text, c ≠ '\n' ∧ c ≠ '\r') :
    Reads visible ⟨.literal quote, .exactly []⟩ (escapeChars text) ⟨.literal quote, .exactly []⟩ := by
  induction text with
  | nil => exact .nil _
  | cons c text ih =>
    rw [List.forall_mem_cons] at h
    have hrest := ih h.2
    rw [escapeChars]
    split
    · have hbackslash : Reads visible ⟨.literal quote, .exactly []⟩ ['\\']
          ⟨.escaped quote, .exactly []⟩ := by
        refine .of_step ?_
        simp [Sketch.step, Mode.isOpen, Mode.next, NameSketch.isSettled, isFine_nil]
      have hc : Reads visible ⟨.escaped quote, .exactly []⟩ [c] ⟨.literal quote, .exactly []⟩ := by
        refine .of_step ?_
        simp [Sketch.step, h.1, Mode.isOpen, Mode.next, NameSketch.isSettled, isFine_nil]
      exact .append hbackslash (.append hc hrest)
    · rename_i hplain
      have hkept : c ≠ '\\' ∧ c ≠ '$' ∧ c ≠ quote := by
        simp only [needsEscape, Bool.or_eq_true, beq_iff_eq, not_or] at hplain
        rcases hquote with rfl | rfl <;> simp_all
      have hc : Reads visible ⟨.literal quote, .exactly []⟩ [c] ⟨.literal quote, .exactly []⟩ := by
        refine .of_step ?_
        simp [Sketch.step, h.1, hkept, Mode.isOpen, Mode.next, NameSketch.isSettled, isFine_nil]
      exact .append hc hrest

end

/-- The characters of a name are read as the name. -/
theorem run_word {word : List Char} (hword : ∀ c ∈ word, isNameChar c = true) (before : List Char) :
    Sketch.run visible ⟨.code, .exactly before⟩ word =
      some ⟨.code, .exactly (word.reverse ++ before)⟩ := by
  induction word generalizing before with
  | nil => rfl
  | cons c word ih =>
    rw [List.forall_mem_cons] at hword
    have hplain : c ≠ '\n' ∧ c ≠ '\r' ∧ c ≠ '/' ∧ c ≠ '\'' ∧ c ≠ '"' := by
      refine ⟨?_, ?_, ?_, ?_, ?_⟩ <;> rintro rfl <;> exact absurd hword.1 (by decide)
    have hstep : Sketch.step visible ⟨.code, .exactly before⟩ c =
        some ⟨.code, .exactly (c :: before)⟩ := by
      simp [Sketch.step, hplain, hword.1, Mode.isOpen, Mode.next, Mode.afterCode, NameSketch.push]
    rw [Sketch.run, hstep, Option.bind_some, ih hword.2, List.reverse_cons, List.append_assoc,
      List.singleton_append]

/-- A word is known by what is known of its name. -/
theorem word {text : String} (hword : IsWord text) {name : NameSketch}
    (h : name.Holds visible text.toList.reverse) :
    Reads visible .start text.toList ⟨.code, name⟩ := by
  have hrun : Reads visible .start text.toList ⟨.code, .exactly (text.toList.reverse ++ [])⟩ :=
    .of_run (run_word hword.isNameChar [])
  refine hrun.weaken fun reached hreached => ?_
  cases hreached
  rwa [List.append_nil]

end Reads

end DartLayers.Dart
