import DartLayers.FileTree

/-!
# DartLayers — what an entry that is put into a tree changes

A tree is looked at by its locations. An entry that is put where no directory is changes what is at
that one location, and nothing at all if the directory around it is missing.

* **`FileTree.fileAt`** — the view of a tree by the bytes of its files.
* **`FileTree.look_put`** — the equation of `put`, location by location.
* **`FileTree.look_put_of_missing`** — an entry outside any directory is lost.
-/

namespace DartLayers

/-! ## Below a directory -/

/-- What stands below a location can only be reached through a directory there. -/
theorem lookBelow_append (location suffix : Location) (hne : suffix ≠ [])
    (entries : List (String × Entry)) (h : lookBelow location entries ≠ some .directory) :
    lookBelow (location ++ suffix) entries = none := by
  induction location generalizing entries with
  | nil => exact absurd rfl h
  | cons name rest ih =>
    rw [lookBelow] at h
    rw [List.cons_append, lookBelow]
    cases hfound : entries.lookup name with
    | none => rfl
    | some entry =>
      rw [hfound] at h
      cases entry with
      | directory inner => exact ih inner h
      | file bytes => simp [hne]
      | link target => simp [hne]

/-- An entry that is put into a directory brings its own entries with it. -/
theorem lookBelow_putBelow_append (entry : Entry) (location suffix : Location)
    (hne : location ≠ []) (hsuffix : suffix ≠ []) (entries : List (String × Entry))
    (h : lookBelow location.dropLast entries = some .directory) :
    lookBelow (location ++ suffix) (putBelow entry location entries) =
      lookBelow suffix entry.inner := by
  have hnone : lookBelow suffix [] = none := by
    cases suffix with
    | nil => exact absurd rfl hsuffix
    | cons name rest => simp [lookBelow]
  -- By the recursion of the writing; its last case needs a directory where none was found.
  fun_induction putBelow entry location entries with
  | case1 => exact absurd rfl hne
  | case2 name entries =>
    rw [List.singleton_append, lookBelow, lookup_insertMember_self]
    cases entry <;> simp [Entry.inner, hsuffix, hnone]
  | case3 name rest entries hrest inner hfound ih =>
    have hrest' : rest ≠ [] := fun hnil => hrest hnil
    rw [List.cons_append, lookBelow, lookup_insertMember_self]
    refine ih hrest' ?_
    rw [List.dropLast_cons_of_ne_nil hrest', lookBelow, hfound] at h
    exact h
  | case4 name rest entries hrest hfound =>
    have hrest' : rest ≠ [] := fun hnil => hrest hnil
    rw [List.dropLast_cons_of_ne_nil hrest', lookBelow] at h
    cases hlookup : entries.lookup name with
    | none => rw [hlookup] at h; cases h
    | some found =>
      cases found with
      | directory inner => exact absurd hlookup (hfound inner)
      | file bytes => rw [hlookup] at h; simp at h; cases h.2
      | link target => rw [hlookup] at h; simp at h; cases h.2

/-- An entry that is put where no directory is around it is lost. -/
theorem lookBelow_putBelow_of_missing (entry : Entry) (location other : Location)
    (hne : location ≠ []) (entries : List (String × Entry))
    (h : lookBelow location.dropLast entries ≠ some .directory) :
    lookBelow other (putBelow entry location entries) = lookBelow other entries := by
  fun_induction putBelow entry location entries generalizing other with
  | case1 => rfl
  | case2 name entries => exact absurd rfl h
  | case3 name rest entries hrest inner hfound ih =>
    have hrest' : rest ≠ [] := fun hnil => hrest hnil
    rw [List.dropLast_cons_of_ne_nil hrest', lookBelow, hfound] at h
    cases other with
    | nil => rfl
    | cons first others =>
      by_cases hname : first = name
      · subst hname
        rw [lookBelow, lookBelow, lookup_insertMember_self, hfound]
        exact ih others hrest' h
      · rw [lookBelow, lookBelow, lookup_insertMember_of_ne hname]
  | case4 => rfl

namespace FileTree

/-! ## Locations in a tree -/

/-- The bytes of the file at a location; none where no file is. -/
def fileAt (tree : FileTree) (location : Location) : Option ByteArray :=
  match tree.look location with
  | some (.file bytes) => some bytes
  | _ => none

@[simp]
theorem look_nil (tree : FileTree) : tree.look [] = some .directory := rfl

@[simp]
theorem home_put (tree : FileTree) (location : Location) (entry : Entry) :
    (tree.put location entry).home = tree.home := rfl

theorem fileAt_eq_some {tree : FileTree} {location : Location} {bytes : ByteArray} :
    tree.fileAt location = some bytes ↔ tree.look location = some (.file bytes) := by
  unfold fileAt
  split
  · rename_i found hfound
    simp [hfound]
  · rename_i hnot
    exact ⟨fun h => (by cases h), fun h => absurd h (hnot bytes)⟩

/-- What is at a location decides which file is there. -/
theorem fileAt_congr {before after : FileTree} {location : Location}
    (h : after.look location = before.look location) :
    after.fileAt location = before.fileAt location := by
  unfold fileAt
  rw [h]

/-- What stands below a location can only be reached through a directory there. -/
theorem look_append_eq_none {tree : FileTree} {location suffix : Location} (hne : suffix ≠ [])
    (h : tree.look location ≠ some .directory) : tree.look (location ++ suffix) = none :=
  lookBelow_append location suffix hne tree.entries h

/-- The way to something is made of directories. -/
theorem look_eq_directory_of_append {tree : FileTree} {location suffix : Location}
    (hne : suffix ≠ []) (h : tree.look (location ++ suffix) ≠ none) :
    tree.look location = some .directory :=
  Classical.byContradiction fun hnot => h (look_append_eq_none hne hnot)

/-- **The equation of `put`.** An entry without entries of its own, put into a directory where no
directory is, changes what is at its location and nothing else. -/
theorem look_put (tree : FileTree) {location : Location} (hne : location ≠ [])
    (hparent : tree.look location.dropLast = some .directory)
    (hnot : tree.look location ≠ some .directory) {entry : Entry} (hflat : entry.inner = [])
    (other : Location) :
    (tree.put location entry).look other =
      if other = location then some entry.kind else tree.look other := by
  by_cases hother : other = location
  · subst hother
    rw [if_pos rfl]
    exact look_put_self tree hne hparent entry
  · rw [if_neg hother]
    by_cases hprefix : location <+: other
    · -- Below the location there was nothing, and the new entry brings nothing with it.
      obtain ⟨suffix, rfl⟩ := hprefix
      have hsuffix : suffix ≠ [] := fun hnil => hother (by rw [hnil, List.append_nil])
      have hafter : (tree.put location entry).look (location ++ suffix) = none := by
        refine (lookBelow_putBelow_append entry location suffix hne hsuffix _ hparent).trans ?_
        rw [hflat]
        cases suffix with
        | nil => exact absurd rfl hsuffix
        | cons name rest => simp [lookBelow]
      rw [hafter, look_append_eq_none hsuffix hnot]
    · exact look_put_of_not_prefix tree hprefix entry

/-- An entry outside any directory is lost. -/
theorem look_put_of_missing (tree : FileTree) {location : Location} (hne : location ≠ [])
    (hparent : tree.look location.dropLast ≠ some .directory) (entry : Entry) (other : Location) :
    (tree.put location entry).look other = tree.look other :=
  lookBelow_putBelow_of_missing entry location other hne tree.entries hparent

end FileTree

end DartLayers
