import DartLayers.Text.Split

/-!
# DartLayers — path names

A path name is a list of parts, with slashes in front if it is absolute. Empty parts and single dots
do not count; a double dot does, because the part before it may be a link.
-/

namespace DartLayers

/-- A path name: the slashes in front, which are none, one or two, and its parts. -/
structure PathName where
  root : String := ""
  parts : List String
  deriving Repr, DecidableEq

/-- The parts of a written path. -/
def pathParts (text : String) : List String :=
  ((Text.splitOn '/' text.toList).filter fun part => part != [] && part != ['.']).map String.ofList

namespace PathName

/-- The slashes in front of a written path; three or more count as one. -/
def rootOf (text : List Char) : String :=
  match (text.takeWhile (· == '/')).length with
  | 0 => ""
  | 2 => "//"
  | _ => "/"

/-- Reads a path name. -/
def ofString (text : String) : PathName :=
  { root := rootOf text.toList, parts := pathParts text }

/-- A path name as text; the empty one is a dot. -/
def text (path : PathName) : String :=
  if path.root = "" && path.parts.isEmpty then "."
  else path.root ++ "/".intercalate path.parts

/-- A path name inside another one; an absolute one stands for itself. -/
def join (path inner : PathName) : PathName :=
  if inner.root = "" then ⟨path.root, path.parts ++ inner.parts⟩ else inner

/-- The path name without its last part. -/
def parent (path : PathName) : PathName :=
  ⟨path.root, path.parts.dropLast⟩

/-- Whether a path name holds a null character, which no file name may. -/
def hasNull (path : PathName) : Bool :=
  path.parts.any fun part => part.toList.contains '\x00'

end PathName

end DartLayers
