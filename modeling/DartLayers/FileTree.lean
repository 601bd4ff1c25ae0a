import DartLayers.Json

/-!
# DartLayers — trees of files

A tree holds files, links and directories by name. Below the root an entry is found by its
*location*, the names on the way to it; a location says nothing about links. One location is that of
the working directory, where relative path names start.

* **`FileTree.below`** — a tree with a working directory.
* **`FileTree.look`** — what is at a location.
* **`FileTree.put`**, **`FileTree.remove`** — one entry changed.
-/

namespace DartLayers

/-- An entry of a directory. -/
inductive Entry where
  | file (bytes : ByteArray)
  | link (target : String)
  | directory (entries : List (String × Entry))

/-- The names on the way from the root to an entry. -/
abbrev Location := List String

/-- A tree by the entries of its root, with the location of the working directory. -/
structure FileTree where
  entries : List (String × Entry) := []
  home : Location := []

/-- What is at a location, disregarding what a directory holds. -/
inductive Kind where
  | file (bytes : ByteArray)
  | link (target : String)
  | directory

/-- What an entry is. -/
def Entry.kind : Entry → Kind
  | .file bytes => .file bytes
  | .link target => .link target
  | .directory _ => .directory

/-- The entries of an entry. -/
def Entry.inner : Entry → List (String × Entry)
  | .directory entries => entries
  | _ => []

/-! ## Entries below a directory -/

/-- What is at a location below some entries. -/
def lookBelow : Location → List (String × Entry) → Option Kind
  | [], _ => some .directory
  | name :: rest, entries =>
    match entries.lookup name with
    | none => none
    | some (.directory inner) => lookBelow rest inner
    | some entry => if rest.isEmpty then some entry.kind else none

/-- The entries of the directory at a location below some entries. -/
def entriesBelow : Location → List (String × Entry) → List (String × Entry)
  | [], entries => entries
  | name :: rest, entries =>
    match entries.lookup name with
    | some entry => entriesBelow rest entry.inner
    | none => []

/-- Entries with one of them replaced or added at a location, whose directory must be there. -/
def putBelow (entry : Entry) : Location → List (String × Entry) → List (String × Entry)
  | [], entries => entries
  | [name], entries => insertMember name entry entries
  | name :: rest, entries =>
    match entries.lookup name with
    | some (.directory inner) => insertMember name (.directory (putBelow entry rest inner)) entries
    | _ => entries

/-- Entries without the one at a location. -/
def removeBelow : Location → List (String × Entry) → List (String × Entry)
  | [], entries => entries
  | [name], entries => entries.filter fun entry => entry.1 != name
  | name :: rest, entries =>
    match entries.lookup name with
    | some (.directory inner) => insertMember name (.directory (removeBelow rest inner)) entries
    | _ => entries

/-- An entry that is put into a directory is found there. -/
theorem lookBelow_putBelow_self (entry : Entry) (location : Location) (hne : location ≠ [])
    (entries : List (String × Entry))
    (h : lookBelow location.dropLast entries = some .directory) :
    lookBelow location (putBelow entry location entries) = some entry.kind := by
  fun_induction putBelow entry location entries with
  | case1 => exact absurd rfl hne
  | case2 name entries =>
    rw [lookBelow, lookup_insertMember_self]
    cases entry <;> simp [Entry.kind, lookBelow]
  | case3 name rest entries hrest inner hfound ih =>
    obtain ⟨next, others, rfl⟩ : ∃ next others, rest = next :: others := by
      cases rest with
      | nil => exact (hrest rfl).elim
      | cons next others => exact ⟨next, others, rfl⟩
    rw [lookBelow, lookup_insertMember_self]
    refine ih (by simp) ?_
    rw [List.dropLast_cons_cons, lookBelow, hfound] at h
    exact h
  | case4 name rest entries hrest hfound =>
    obtain ⟨next, others, rfl⟩ : ∃ next others, rest = next :: others := by
      cases rest with
      | nil => exact (hrest rfl).elim
      | cons next others => exact ⟨next, others, rfl⟩
    rw [List.dropLast_cons_cons, lookBelow] at h
    split at h
    · cases h
    · exact absurd ‹_› (hfound _)
    · rename_i found hnot _
      split at h
      · cases found <;> simp_all [Entry.kind]
      · cases h

/-- Putting an entry at a location changes nothing that is not there or below. -/
theorem lookBelow_putBelow_of_not_prefix (entry : Entry) (location other : Location)
    (entries : List (String × Entry)) (h : ¬ location <+: other) :
    lookBelow other (putBelow entry location entries) = lookBelow other entries := by
  fun_induction putBelow entry location entries generalizing other with
  | case1 => rfl
  | case2 name entries =>
    cases other with
    | nil => rfl
    | cons first rest =>
      have hne : first ≠ name := fun hname => h ⟨rest, by simp [hname]⟩
      rw [lookBelow, lookBelow, lookup_insertMember_of_ne hne]
  | case3 name rest entries hrest inner hfound ih =>
    cases other with
    | nil => rfl
    | cons first others =>
      by_cases hname : first = name
      · subst hname
        rw [lookBelow, lookBelow, lookup_insertMember_self, hfound]
        exact ih others fun hp => h (List.cons_prefix_cons.2 ⟨rfl, hp⟩)
      · rw [lookBelow, lookBelow, lookup_insertMember_of_ne hname]
  | case4 => rfl

namespace FileTree

/-! ## Locations in a tree -/

/-- The tree in which nothing stands beside the way to a working directory with some entries. -/
def below (home : Location) (entries : List (String × Entry)) : FileTree where
  entries := home.foldr (fun name inner => [(name, .directory inner)]) entries
  home := home

/-- The entries of the working directory. -/
def homeEntries (tree : FileTree) : List (String × Entry) :=
  entriesBelow tree.home tree.entries

/-- What is at a location. -/
def look (tree : FileTree) (location : Location) : Option Kind :=
  lookBelow location tree.entries

/-- Replaces or adds the entry at a location. -/
def put (tree : FileTree) (location : Location) (entry : Entry) : FileTree :=
  { tree with entries := putBelow entry location tree.entries }

/-- Removes the entry at a location with all that it holds. -/
def remove (tree : FileTree) (location : Location) : FileTree :=
  { tree with entries := removeBelow location tree.entries }

/-- Whether there is a directory at a location. -/
def isDirectoryAt (tree : FileTree) (location : Location) : Bool :=
  match tree.look location with
  | some .directory => true
  | _ => false

/-- An entry that is put into a directory is found there. -/
theorem look_put_self (tree : FileTree) {location : Location} (hne : location ≠ [])
    (h : tree.look location.dropLast = some .directory) (entry : Entry) :
    (tree.put location entry).look location = some entry.kind :=
  lookBelow_putBelow_self entry location hne tree.entries h

/-- Putting an entry at a location changes nothing that is not there or below. -/
theorem look_put_of_not_prefix (tree : FileTree) {location other : Location}
    (h : ¬ location <+: other) (entry : Entry) :
    (tree.put location entry).look other = tree.look other :=
  lookBelow_putBelow_of_not_prefix entry location other tree.entries h

end FileTree

end DartLayers
