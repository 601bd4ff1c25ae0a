import DartLayers.FileTree.Access
import DartLayers.Proofs.FileTree.Entries
import DartLayers.Proofs.FileTree.Strides

/-!
# DartLayers — the sites of path names in a tree without links

Where no link is on the way a path name leads to a location that can be read off the name: its
*site*. The tree only decides whether the walk comes through, that is, whether every part but the
last one is looked for in a directory. A double dot makes the two come apart: behind a directory
that is missing it stops the walk, and yet the site may hold a file.

* **`FileTree.LinkFree`** — trees without links.
* **`siteFrom`**, **`FileTree.siteOf`** — the site of a path name.
* **`FileTree.Walkable`** — the walk comes through.
* **`FileTree.locate_eq_ok_iff`**, **`FileTree.find_eq_ok_iff`** — a path name leads to its site,
  if anywhere.
-/

namespace DartLayers

/-! ## Sites -/

/-- The location that parts name, started from another one. -/
def siteFrom (here : Location) : List String → Location
  | [] => here
  | part :: rest =>
    if part = slashMark ∨ part = "." then siteFrom here rest
    else if part = ".." then siteFrom here.dropLast rest
    else siteFrom (here ++ [part]) rest

section

variable {part : String} (here : Location) (rest : List String)

theorem siteFrom_stay (hpart : part = slashMark ∨ part = ".") :
    siteFrom here (part :: rest) = siteFrom here rest := by
  rw [siteFrom, if_pos hpart]

theorem siteFrom_up : siteFrom here (".." :: rest) = siteFrom here.dropLast rest := by
  rw [siteFrom, if_neg (by simp [slashMark]), if_pos rfl]

theorem siteFrom_name (hname : IsName part) :
    siteFrom here (part :: rest) = siteFrom (here ++ [part]) rest := by
  rw [siteFrom, if_neg (not_or.2 ⟨hname.1, hname.2.1⟩), if_neg hname.2.2]

end

theorem siteFrom_append (here : Location) (parts others : List String) :
    siteFrom here (parts ++ others) = siteFrom (siteFrom here parts) others := by
  induction parts generalizing here with
  | nil => rfl
  | cons part rest ih =>
    rw [List.cons_append, siteFrom, siteFrom]
    split
    · exact ih here
    · split
      · exact ih here.dropLast
      · exact ih (here ++ [part])

/-- Parts that are names are put behind each other. -/
theorem siteFrom_of_names {parts : List String} (h : ∀ part ∈ parts, IsName part)
    (here : Location) : siteFrom here parts = here ++ parts := by
  induction parts generalizing here with
  | nil => simp [siteFrom]
  | cons part rest ih =>
    rw [siteFrom_name here rest (h part List.mem_cons_self),
      ih fun other hother => h other (List.mem_cons_of_mem _ hother)]
    simp

namespace FileTree

/-- The site of a path name. -/
def siteOf (tree : FileTree) (path : PathName) : Location :=
  siteFrom (tree.startOf path) path.parts

/-- A tree without links. -/
def LinkFree (tree : FileTree) : Prop :=
  ∀ location target, tree.look location ≠ some (.link target)

end FileTree

mutual

/-- Whether an entry is a link or holds one. -/
def Entry.holdsLink : Entry → Bool
  | .file _ => false
  | .link _ => true
  | .directory entries => entriesHoldLink entries

/-- Whether entries have a link among them or below. -/
def entriesHoldLink : List (String × Entry) → Bool
  | [] => false
  | (_, entry) :: rest => entry.holdsLink || entriesHoldLink rest

end

theorem holdsLink_of_lookup {entries : List (String × Entry)} {name : String} {entry : Entry}
    (hentries : entriesHoldLink entries = false) (h : entries.lookup name = some entry) :
    entry.holdsLink = false := by
  induction entries with
  | nil => cases h
  | cons first rest ih =>
    obtain ⟨other, found⟩ := first
    rw [entriesHoldLink, Bool.or_eq_false_iff] at hentries
    rw [List.lookup_cons] at h
    split at h
    · cases h
      exact hentries.1
    · exact ih hentries.2 h

namespace FileTree

/-- Whether a tree has links can be checked. -/
theorem linkFree_of_holdsLink {tree : FileTree} (h : entriesHoldLink tree.entries = false) :
    tree.LinkFree := by
  intro location target hlook
  rw [look] at hlook
  generalize tree.entries = entries at h hlook
  induction location generalizing entries with
  | nil => cases hlook
  | cons name rest ih =>
    rw [lookBelow] at hlook
    split at hlook
    · cases hlook
    · rename_i inner hfound
      have hinner := holdsLink_of_lookup h hfound
      rw [Entry.holdsLink] at hinner
      exact ih inner hinner hlook
    · rename_i entry hnot hfound
      have hentry := holdsLink_of_lookup h hfound
      split at hlook
      · cases entry with
        | link _ => cases hentry
        | file _ => cases hlook
        | directory _ => cases hlook
      · cases hlook

/-- A walk over parts comes through: each of them is looked for in a directory, and no name is too
long. -/
def Walkable (tree : FileTree) : Location → List String → Prop
  | _, [] => True
  | here, part :: rest =>
    tree.look here = some .directory ∧
      if part = slashMark ∨ part = "." then tree.Walkable here rest
      else if part = ".." then tree.Walkable here.dropLast rest
      else part.utf8ByteSize ≤ maxNameBytes ∧ tree.Walkable (here ++ [part]) rest

section

variable {tree : FileTree} {here : Location} {part : String} {rest : List String}

theorem walkable_stay_iff (hpart : part = slashMark ∨ part = ".") :
    tree.Walkable here (part :: rest) ↔
      tree.look here = some .directory ∧ tree.Walkable here rest := by
  rw [Walkable, if_pos hpart]

theorem walkable_up_iff : tree.Walkable here (".." :: rest) ↔
    tree.look here = some .directory ∧ tree.Walkable here.dropLast rest := by
  rw [Walkable, if_neg (by simp [slashMark]), if_pos rfl]

theorem walkable_name_iff (hname : IsName part) : tree.Walkable here (part :: rest) ↔
    tree.look here = some .directory ∧ part.utf8ByteSize ≤ maxNameBytes ∧
      tree.Walkable (here ++ [part]) rest := by
  rw [Walkable, if_neg (not_or.2 ⟨hname.1, hname.2.1⟩), if_neg hname.2.2]

end

theorem walkable_append {tree : FileTree} {here : Location} {parts others : List String} :
    tree.Walkable here (parts ++ others) ↔
      tree.Walkable here parts ∧ tree.Walkable (siteFrom here parts) others := by
  induction parts generalizing here with
  | nil => simp [Walkable, siteFrom]
  | cons part rest ih =>
    rw [List.cons_append, Walkable, Walkable, siteFrom]
    split
    · rw [ih, and_assoc]
    · split
      · rw [ih, and_assoc]
      · rw [ih, and_assoc, and_assoc]

/-- A walk that comes through still does in a tree that has kept its directories. -/
theorem Walkable.mono {before after : FileTree}
    (hkept : ∀ location, before.look location = some .directory →
      after.look location = some .directory)
    {here : Location} {parts : List String} (h : before.Walkable here parts) :
    after.Walkable here parts := by
  induction parts generalizing here with
  | nil => trivial
  | cons part rest ih =>
    rcases part_cases part with hpart | rfl | hname
    · rw [walkable_stay_iff hpart] at h ⊢
      exact h.imp (hkept here) ih
    · rw [walkable_up_iff] at h ⊢
      exact h.imp (hkept here) ih
    · rw [walkable_name_iff hname] at h ⊢
      exact h.imp (hkept here) (And.imp_right ih)

/-! ## Walks without links -/

variable {tree : FileTree}

/-- Without links a walk is never sent on a detour, and it ends at the site. -/
theorem walkTo_eq_ok (hfree : tree.LinkFree) {purpose : Purpose} {here : Location}
    {parts : List String} {arrival : Arrival} (h : tree.walkTo purpose here parts = .ok arrival) :
    arrival = .place (siteFrom here parts) ∧ tree.Walkable here parts := by
  induction parts generalizing here with
  | nil =>
    rw [walkTo] at h
    exact ⟨by simpa [siteFrom] using h.symm, trivial⟩
  | cons part rest ih =>
    cases pass h with
    | stay hhere hpart hrest =>
      rw [siteFrom_stay here rest hpart, walkable_stay_iff hpart]
      exact (ih hrest).imp_right fun hway => ⟨hhere, hway⟩
    | up hhere hrest =>
      rw [siteFrom_up, walkable_up_iff]
      exact (ih hrest).imp_right fun hway => ⟨hhere, hway⟩
    | down hhere hname _ hshort _ hrest =>
      rw [siteFrom_name here rest hname, walkable_name_iff hname]
      exact (ih hrest).imp_right fun hway => ⟨hhere, hshort, hway⟩
    | follow target _ _ _ _ _ hlink => exact absurd hlink (hfree _ target)
    | link target _ _ _ hlink => exact absurd hlink (hfree _ target)

/-- A walkable way is passed, and the walk goes on from its site. -/
theorem walkTo_append_of_walkable (hfree : tree.LinkFree) {purpose : Purpose} (others : List String)
    (hasks : ∀ front, ¬ AsksDirectory purpose (front ++ others)) {here : Location}
    {parts : List String} (h : tree.Walkable here parts) :
    tree.walkTo purpose here (parts ++ others) =
      tree.walkTo purpose (siteFrom here parts) others := by
  induction parts generalizing here with
  | nil => rfl
  | cons part rest ih =>
    rw [List.cons_append]
    rcases part_cases part with hpart | rfl | hname
    · rw [walkable_stay_iff hpart] at h
      rw [walkTo_stay h.1 hpart, siteFrom_stay here rest hpart, ih h.2]
    · rw [walkable_up_iff] at h
      rw [walkTo_up h.1, siteFrom_up, ih h.2]
    · rw [walkable_name_iff hname] at h
      rw [walkTo_down h.1 hname (hasks rest) h.2.1 (hfree _), siteFrom_name here rest hname, ih h.2.2]

/-- A walkable way is walked to its site. -/
theorem walkTo_of_walkable (hfree : tree.LinkFree) {purpose : Purpose}
    (hpurpose : purpose ≠ .newFile) {here : Location} {parts : List String}
    (h : tree.Walkable here parts) :
    tree.walkTo purpose here parts = .ok (.place (siteFrom here parts)) := by
  have happend :=
    walkTo_append_of_walkable hfree [] (fun _ => not_asksDirectory hpurpose _) h
  rw [List.append_nil] at happend
  rw [happend, walkTo]

theorem walk_eq_ok (hfree : tree.LinkFree) {purpose : Purpose} {links : Nat} {here : Location}
    {parts : List String} {location : Location}
    (h : tree.walk purpose links here parts = .ok location) :
    location = siteFrom here parts ∧ tree.Walkable here parts := by
  cases walk_eq_ok_iff.1 h with
  | place hwalk => exact (walkTo_eq_ok hfree hwalk).imp_left Arrival.place.inj
  | detour hwalk _ => cases (walkTo_eq_ok hfree hwalk).1

/-! ## Path names -/

/-- A walk for a file that may have to be made ends at the site, too. -/
theorem locate_eq_ok (hfree : tree.LinkFree) {purpose : Purpose} {path : PathName}
    {location : Location} (h : tree.locate purpose path = .ok location) :
    location = tree.siteOf path ∧ Accepted path ∧
      tree.Walkable (tree.startOf path) path.parts := by
  obtain ⟨haccepted, hwalk⟩ := locate_iff.1 h
  obtain ⟨hsite, hway⟩ := walk_eq_ok hfree hwalk
  exact ⟨hsite, haccepted, hway⟩

/-- A path name leads to its site exactly if the system takes it and the walk comes through. -/
theorem locate_eq_ok_iff (hfree : tree.LinkFree) {purpose : Purpose} (hpurpose : purpose ≠ .newFile)
    {path : PathName} {location : Location} :
    tree.locate purpose path = .ok location ↔
      location = tree.siteOf path ∧ Accepted path ∧
        tree.Walkable (tree.startOf path) path.parts := by
  refine ⟨locate_eq_ok hfree, ?_⟩
  rintro ⟨rfl, haccepted, hwalk⟩
  exact locate_iff.2
    ⟨haccepted, walk_of_place (walkTo_of_walkable hfree hpurpose hwalk) maxLinks⟩

/-- What a path name leads to is what is at its site, if the walk comes through. -/
theorem find_eq_ok_iff (hfree : tree.LinkFree) {path : PathName} {location : Location}
    {kind : Kind} :
    tree.find path = .ok (location, kind) ↔
      location = tree.siteOf path ∧ Accepted path ∧
        tree.Walkable (tree.startOf path) path.parts ∧ tree.look location = some kind := by
  rw [find]
  constructor
  · intro h
    split at h
    · cases h
    · rename_i place hplace
      obtain ⟨hsite, haccepted, hwalk⟩ := locate_eq_ok hfree hplace
      split at h
      · cases h
      · rename_i found hfound
        cases h
        exact ⟨hsite, haccepted, hwalk, hfound⟩
  · rintro ⟨hsite, haccepted, hwalk, hkind⟩
    rw [(locate_eq_ok_iff hfree (by decide)).2 ⟨hsite, haccepted, hwalk⟩]
    simp only [hkind]

end FileTree

end DartLayers
