import DartLayers.FileTree
import DartLayers.PathName
import DartLayers.Text.Quoted

/-!
# DartLayers — from path names to locations

A path name is walked part by part, from the working directory or, if it is absolute, from the root.
A link on the way stands for the path that it holds; at the end of the way it is followed or not, as
the purpose of the walk asks. A double dot at the root stays there.

A tree says nothing about who may use it or how much fits into it. So no operation is refused for want
of permission or of space, and none stops half-way: what is told about all refusals is told about
those of `Refusal`.

* **`Refusal`** — why an operation on files is refused.
* **`FileTree.locate`** — the location that a path name leads to. Its last part need not be there.
-/

namespace DartLayers

/-! ## Refusals -/

/-- Why an operation on files is refused: because of its path name, or of what the tree holds. -/
inductive Refusal where
  | noEntry
  | exists
  | notDirectory
  | isDirectory
  | nameTooLong
  | loop
  | nullByte
  deriving Repr, DecidableEq

namespace Refusal

/-- The wording of a refusal. -/
def text : Refusal → String
  | .noEntry => "No such file or directory"
  | .exists => "File exists"
  | .notDirectory => "Not a directory"
  | .isDirectory => "Is a directory"
  | .nameTooLong => "File name too long"
  | .loop => "Too many levels of symbolic links"
  | .nullByte => "embedded null byte"

/-- The number of a refusal. -/
def number : Refusal → Nat
  | .noEntry => 2
  | .exists => 17
  | .notDirectory => 20
  | .isDirectory => 21
  | .nameTooLong => 36
  | .loop => 40
  | .nullByte => 0

/-- The wording of a refusal that names the path; a null character is refused without it. -/
def message (refusal : Refusal) (path : PathName) : String :=
  if refusal = .nullByte then refusal.text
  else "[Errno " ++ toString refusal.number ++ "] " ++ refusal.text ++ ": " ++ Text.quoted path.text

end Refusal

/-! ## Walks

A path is followed part by part. A link on the way is replaced by the parts of its target. -/

/-- The most bytes of a name. -/
def maxNameBytes : Nat := 255

/-- The most bytes of a path name. -/
def maxPathBytes : Nat := 4095

/-- The most links on one way. -/
def maxLinks : Nat := 40

/-- Where a walk arrives: at a location, or at a link, from whose directory other parts are to be
walked. -/
inductive Arrival where
  | place (location : Location)
  | detour (base : Location) (parts : List String)

/-- What a walk is for: an entry itself, what it leads to, or a file that may have to be made. -/
inductive Purpose where
  | entry
  | target
  | newFile
  deriving Repr, DecidableEq

/-- The part after a slash at the end of a link's target: what is before it must be a directory. -/
def slashMark : String := ""

/-- The parts of a link's target. A slash or a dot at its end counts. -/
def linkParts (target : String) : List String :=
  pathParts target ++
    if target.endsWith "/" then [slashMark]
    else if target.endsWith "/." then ["."]
    else []

namespace FileTree

/-- Walks parts from a location up to their end or to the first link that stands for a path. A file
is never made where a directory is asked for. -/
def walkTo (tree : FileTree) (purpose : Purpose) : Location → List String → Except Refusal Arrival
  | here, [] => .ok (.place here)
  | here, part :: rest =>
    match tree.look here with
    | none => .error .noEntry
    | some .directory =>
      if part = slashMark || part = "." then tree.walkTo purpose here rest
      else if part = ".." then tree.walkTo purpose here.dropLast rest
      -- A name that ends with a slash asks for a directory, whether or not there is one.
      else if purpose = .newFile && rest = [slashMark] then .error .isDirectory
      else if part.utf8ByteSize > maxNameBytes then .error .nameTooLong
      else match tree.look (here ++ [part]) with
        | some (.link target) =>
          if rest.isEmpty && purpose = .entry then .ok (.place (here ++ [part]))
          else .ok (.detour (if target.startsWith "/" then [] else here) (linkParts target ++ rest))
        | _ => tree.walkTo purpose (here ++ [part]) rest
    | some _ => .error .notDirectory

/-- Walks parts from a location through at most `links` links. -/
def walk (tree : FileTree) (purpose : Purpose) :
    (links : Nat) → Location → List String → Except Refusal Location
  | links, here, parts =>
    match tree.walkTo purpose here parts with
    | .error refusal => .error refusal
    | .ok (.place location) => .ok location
    | .ok (.detour base others) =>
      match links with
      | 0 => .error .loop
      | links + 1 => tree.walk purpose links base others

/-- The location where a path name starts. -/
def startOf (tree : FileTree) (path : PathName) : Location :=
  if path.root = "" then tree.home else []

/-- The location that a path name leads to. -/
def locate (tree : FileTree) (purpose : Purpose) (path : PathName) : Except Refusal Location :=
  if path.hasNull then .error .nullByte
  else if path.text.utf8ByteSize > maxPathBytes then .error .nameTooLong
  else tree.walk purpose maxLinks (tree.startOf path) path.parts

/-- What a path name leads to, links followed. -/
def find (tree : FileTree) (path : PathName) : Except Refusal (Location × Kind) :=
  match tree.locate .target path with
  | .error refusal => .error refusal
  | .ok location =>
    match tree.look location with
    | none => .error .noEntry
    | some kind => .ok (location, kind)

end FileTree

end DartLayers
