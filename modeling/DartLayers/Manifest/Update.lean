import DartLayers.FileTree.Access
import DartLayers.Manifest

/-!
# DartLayers — extending the manifest of a project

The manifest is a file in the project's directory. It is read as text, extended, and written again
only if something was missing.

* **`updateManifest`** — the names that were added, and the tree afterwards.
-/

namespace DartLayers

/-- Why a manifest is not updated: it is not there, an operation on it was refused, or it cannot be
extended. -/
inductive UpdateFault where
  | missing (path : PathName)
  | refused (path : PathName) (refusal : Refusal)
  | manifest (trouble : ManifestTrouble)

/-- The path of a project's manifest. -/
def manifestPath (project : PathName) : PathName :=
  project.join (PathName.ofString manifestName)

/-- The wording for a manifest that is not there. -/
def missingManifestMessage (path : PathName) : String :=
  manifestName ++ " not found at " ++ path.text

/-- The text of a manifest. -/
def readManifest (tree : FileTree) (path : PathName) : Except UpdateFault String :=
  match tree.isFile path with
  | .error refusal => .error (.refused path refusal)
  | .ok false => .error (.missing path)
  | .ok true =>
    match tree.readBytes path with
    | .error refusal => .error (.refused path refusal)
    | .ok bytes =>
      match decodeText bytes with
      | .error fault => .error (.manifest (.fault (.notUtf8 fault)))
      | .ok text => .ok text

/-- Adds the required dependencies that a project's manifest lacks. -/
def updateManifest (project : PathName) (required : List (String × String)) (tree : FileTree) :
    Except UpdateFault (List String × FileTree) := do
  let path := manifestPath project
  let text ← readManifest tree path
  match addDependencies text required with
  | .error trouble => throw (.manifest trouble)
  | .ok (extended, added) =>
    if added.isEmpty then return ([], tree)
    else match tree.writeText path extended with
      | .error refusal => throw (.refused path refusal)
      | .ok tree => return (added, tree)

end DartLayers
