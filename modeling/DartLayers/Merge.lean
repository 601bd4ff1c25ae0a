import DartLayers.FileTree.Access
import DartLayers.Console

/-!
# DartLayers — writing without losing edits

A file is written to a path by three rules. Where nothing is, it is created with the directories
around it. Where a file has the content somewhere in its text already, nothing happens. Any other
file, also one that is not text, is a conflict, which a policy settles: only the reply `true`
replaces the file.

A policy may look at the tree, change it, and carry a state of its own, such as the lines that an
operator has typed.

* **`Outcome`** — what became of a file.
* **`WritePolicy`** — how conflicts are settled and outcomes announced.
* **`writeMerged`** — one file written by these rules.
* **`writeAllMerged`** — several files, up to the first that cannot be written.
-/

namespace DartLayers

/-! ## Outcomes -/

/-- What became of a file. -/
inductive Outcome where
  | created
  | unchanged
  | overwritten
  | skipped
  deriving Repr, DecidableEq

namespace Outcome

/-- The name of an outcome. -/
def name : Outcome → String
  | .created => "created"
  | .unchanged => "unchanged"
  | .overwritten => "overwritten"
  | .skipped => "skipped"

/-- All outcomes, in the order in which they are counted. -/
def all : List Outcome := [.created, .unchanged, .overwritten, .skipped]

/-- The message that reports an outcome. -/
def entry (outcome : Outcome) (path : PathName) : LogEntry :=
  match outcome with
  | .created => .success ("Created new file: " ++ path.text)
  | .overwritten => .success ("Updated file: " ++ path.text)
  | .unchanged => .info ("Content already exists in file: " ++ path.text)
  | .skipped => .warning ("Skipped updating file: " ++ path.text)

end Outcome

/-! ## Policies

What to do about a conflict is left to a policy, which may look at the files, change them, and stop
the work. -/

/-- Why a file is not written: an operation on it was refused, which is reported with its path; it
was refused in a way that is not reported so, because the path could not even be looked for; or the
policy failed on the conflict. -/
inductive WriteStop (ε : Type) where
  | refused (path : PathName) (refusal : Refusal)
  | unreported (path : PathName) (refusal : Refusal)
  | policy (fault : ε)

/-- The wording of a refused operation on a file that is being written. -/
def refusedMessage (path : PathName) (refusal : Refusal) : String :=
  "Cannot write " ++ path.text ++ ": " ++ refusal.text

/-- How conflicts are settled and outcomes announced, with a state of type `σ`. -/
structure WritePolicy (ε σ : Type) where
  settle : PathName → FileTree → σ → Except ε Json × FileTree × σ
  announce : Outcome → PathName → σ → σ

/-- Whether a reply consents to replacing a file. -/
def consents : Json → Bool
  | .bool true => true
  | _ => false

/-- Whether a text occurs in another one. -/
def occursIn (part text : List Char) : Bool :=
  match text with
  | [] => part.isEmpty
  | c :: rest => part.isPrefixOf (c :: rest) || occursIn part rest

/-- A text occurs in another one exactly if that has it as a stretch. -/
theorem occursIn_iff {part text : List Char} : occursIn part text = true ↔ part <:+: text := by
  induction text with
  | nil => simp [occursIn]
  | cons c rest ih => simp [occursIn, ih, List.infix_cons_iff]

/-! ## One file -/

/-- Whether the bytes of a file are text that has a content in it. -/
def holdsContent (content : String) (bytes : ByteArray) : Bool :=
  match decodeText bytes with
  | .ok text => occursIn content.toList text.toList
  | .error _ => false

namespace FileTree

/-- Creates a file with the directories around it. Those that were made stay if the file cannot be
written. -/
def createText (tree : FileTree) (path : PathName) (content : String) : Attempt :=
  match makeDirectories path.parts.length tree path.parent with
  | (tree, some refusal) => (tree, some refusal)
  | (tree, none) =>
    match tree.writeText path content with
    | .ok tree => (tree, none)
    | .error refusal => (tree, some refusal)

end FileTree

/-- The case that a path presents to a writer. -/
inductive Encounter where
  | absent
  | present
  | conflict

/-- The case that a path presents, or why it cannot be told. -/
def encounter {ε : Type} (tree : FileTree) (path : PathName) (content : String) :
    Except (WriteStop ε) Encounter :=
  match tree.isPresent path with
  | .error refusal => .error (.unreported path refusal)
  | .ok false => .ok .absent
  | .ok true =>
    match tree.readBytes path with
    | .error refusal => .error (.refused path refusal)
    | .ok bytes => .ok (if holdsContent content bytes then .present else .conflict)

variable {ε σ : Type}

/-- Settles a conflict at a path. -/
def settleConflict (policy : WritePolicy ε σ) (path : PathName) (content : String)
    (tree : FileTree) (state : σ) : Except (WriteStop ε) Outcome × FileTree × σ :=
  match policy.settle path tree state with
  | (.error fault, tree, state) => (.error (.policy fault), tree, state)
  | (.ok reply, tree, state) =>
    if consents reply then
      match tree.writeText path content with
      | .ok tree => (.ok .overwritten, tree, state)
      | .error refusal => (.error (.refused path refusal), tree, state)
    else (.ok .skipped, tree, state)

/-- Writes a file without announcing the outcome. -/
def mergeText (policy : WritePolicy ε σ) (path : PathName) (content : String) (tree : FileTree)
    (state : σ) : Except (WriteStop ε) Outcome × FileTree × σ :=
  match encounter tree path content with
  | .error stop => (.error stop, tree, state)
  | .ok .absent =>
    match tree.createText path content with
    | (tree, none) => (.ok .created, tree, state)
    | (tree, some .nullByte) => (.error (.unreported path .nullByte), tree, state)
    | (tree, some refusal) => (.error (.refused path refusal), tree, state)
  | .ok .present => (.ok .unchanged, tree, state)
  | .ok .conflict => settleConflict policy path content tree state

/-- Writes a file by the rules of merging and announces the outcome. -/
def writeMerged (policy : WritePolicy ε σ) (path : PathName) (content : String) (tree : FileTree)
    (state : σ) : Except (WriteStop ε) Outcome × FileTree × σ :=
  match mergeText policy path content tree state with
  | (.ok outcome, tree, state) => (.ok outcome, tree, policy.announce outcome path state)
  | (.error stop, tree, state) => (.error stop, tree, state)

/-! ## All files -/

/-- What writing several files came to: the outcomes by path up to the one that could not be
written, if there is such a file. -/
structure Written (ε : Type) where
  outcomes : List (String × Outcome)
  stop : Option (WriteStop ε)

/-- Writes files, given by path below a root and content, one after the other until one cannot be
written. -/
def writeAllMerged (policy : WritePolicy ε σ) (root : PathName) :
    List (String × String) → FileTree → σ → Written ε × FileTree × σ
  | [], tree, state => (⟨[], none⟩, tree, state)
  | (path, content) :: rest, tree, state =>
    match writeMerged policy (root.join (PathName.ofString path)) content tree state with
    | (.error stop, tree, state) => (⟨[], some stop⟩, tree, state)
    | (.ok outcome, tree, state) =>
      match writeAllMerged policy root rest tree state with
      | (written, tree, state) =>
        (⟨(path, outcome) :: written.outcomes, written.stop⟩, tree, state)

end DartLayers
