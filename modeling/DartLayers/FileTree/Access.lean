import DartLayers.FileTree.Walk
import DartLayers.Text.Lines
import DartLayers.Text.Utf8

/-!
# DartLayers — operations on files

The operations that a run needs: asking whether a path leads anywhere, reading text, making
directories, and writing. An operation that is refused changes nothing, but directories that were
made on the way stay.

* **`FileTree.readText`** — the text of a file, with universal line breaks.
* **`FileTree.makeDirectories`** — a directory with those around it.
* **`FileTree.writeText`** — a file with a given text.
-/

namespace DartLayers

/-- The text of bytes, every line break read as one line feed, or where it stops being UTF-8. -/
def decodeText (bytes : ByteArray) : Except Text.Utf8.Fault String :=
  match String.fromUTF8? bytes with
  | some text => .ok (String.ofList (Text.normalizeBreaks text.toList))
  | none => .error ((Text.Utf8.fault? bytes).getD ⟨0, [], .start⟩)

namespace FileTree

/-- Refusals that mean that a path leads nowhere. -/
def meansAbsent : Refusal → Bool
  | .noEntry | .notDirectory | .loop | .nullByte => true
  | _ => false

/-- Whether a path leads to something of a kind. -/
def leadsTo (tree : FileTree) (path : PathName) (accepts : Kind → Bool) : Except Refusal Bool :=
  match tree.find path with
  | .ok (_, kind) => .ok (accepts kind)
  | .error refusal => if meansAbsent refusal then .ok false else .error refusal

/-- Whether a path leads anywhere. -/
def isPresent (tree : FileTree) (path : PathName) : Except Refusal Bool :=
  tree.leadsTo path fun _ => true

/-- Whether a path leads to a file. -/
def isFile (tree : FileTree) (path : PathName) : Except Refusal Bool :=
  tree.leadsTo path fun
    | .file _ => true
    | _ => false

/-- Whether a path leads to a directory. -/
def isDirectory (tree : FileTree) (path : PathName) : Except Refusal Bool :=
  tree.leadsTo path fun
    | .directory => true
    | _ => false

/-- The bytes of the file that a path leads to. -/
def readBytes (tree : FileTree) (path : PathName) : Except Refusal ByteArray :=
  match tree.find path with
  | .error refusal => .error refusal
  | .ok (_, .file bytes) => .ok bytes
  | .ok _ => .error .isDirectory

/-- Makes a directory. Its own directory must be there, and nothing may have its name. -/
def makeDirectory (tree : FileTree) (path : PathName) : Except Refusal FileTree :=
  match tree.locate .entry path with
  | .error refusal => .error refusal
  | .ok location =>
    match tree.look location with
    | some _ => .error .exists
    | none => .ok (tree.put location (.directory []))

/-- Accepts a refusal where a directory is already there. -/
def unlessDirectory (tree : FileTree) (path : PathName) (refusal : Refusal) :
    Except Refusal Unit :=
  match tree.isDirectory path with
  | .ok true => .ok ()
  | .ok false => .error refusal
  | .error other => .error other

/-- A tree after an operation, and its refusal if it was refused. -/
abbrev Attempt := FileTree × Option Refusal

/-- Makes a directory unless it is there. -/
def ensureDirectory (tree : FileTree) (path : PathName) : Attempt :=
  match tree.makeDirectory path with
  | .ok tree => (tree, none)
  | .error refusal =>
    match tree.unlessDirectory path refusal with
    | .ok () => (tree, none)
    | .error refusal => (tree, some refusal)

/-- Makes a directory unless it is there, and the directories around it where they are missing;
`depth` bounds how many that are. -/
def makeDirectories : (depth : Nat) → FileTree → PathName → Attempt
  | 0, tree, path => tree.ensureDirectory path
  | depth + 1, tree, path =>
    match tree.makeDirectory path with
    | .error .noEntry =>
      match makeDirectories depth tree path.parent with
      | (tree, some refusal) => (tree, some refusal)
      | (tree, none) =>
        match tree.makeDirectory path with
        | .error .noEntry => (tree, some .noEntry)
        | _ => tree.ensureDirectory path
    | _ => tree.ensureDirectory path

/-- Writes bytes to the file that a path leads to, which is made if it is missing. -/
def writeBytes (tree : FileTree) (path : PathName) (bytes : ByteArray) : Except Refusal FileTree :=
  match tree.locate .newFile path with
  | .error refusal => .error refusal
  | .ok location =>
    if tree.isDirectoryAt location then .error .isDirectory
    else .ok (tree.put location (.file bytes))

/-- Writes a text to the file that a path leads to, which is made if it is missing. It is written as a
whole or not at all. -/
def writeText (tree : FileTree) (path : PathName) (text : String) : Except Refusal FileTree :=
  tree.writeBytes path text.toUTF8

end FileTree

end DartLayers
