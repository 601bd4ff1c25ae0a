import DartLayers.FileTree.Access

/-!
# DartLayers — listing the files of a tree

All files of the working directory by their paths, sorted. A link is listed where it leads to a
file; a link to a directory is not entered.
-/

namespace DartLayers.FileTree

mutual

/-- The files of an entry at a location below the working directory. -/
def filesOf (tree : FileTree) (location : Location) : Entry → List (Location × ByteArray)
  | .file bytes => [(location, bytes)]
  | .link _ =>
    match tree.readBytes { parts := location } with
    | .ok bytes => [(location, bytes)]
    | .error _ => []
  | .directory entries => filesBelow tree location entries

/-- The files of entries in the directory at a location below the working directory. -/
def filesBelow (tree : FileTree) (location : Location) :
    List (String × Entry) → List (Location × ByteArray)
  | [] => []
  | (name, entry) :: rest =>
    filesOf tree (location ++ [name]) entry ++ filesBelow tree location rest

end

/-- The files of the working directory by their paths, in the order of the paths. -/
def files (tree : FileTree) : List (String × ByteArray) :=
  ((tree.filesBelow [] tree.homeEntries).map fun (location, bytes) =>
    ("/".intercalate location, bytes)).mergeSort fun a b => decide (a.1 ≤ b.1)

end DartLayers.FileTree
