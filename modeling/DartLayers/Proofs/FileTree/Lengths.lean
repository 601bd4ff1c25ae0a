import DartLayers.Proofs.FileTree.Site
import DartLayers.Proofs.FileTree.Ways

/-!
# DartLayers — path names that are too long

Asking whether a path name leads anywhere has an answer, yes or no, whatever stands in the way: a
missing directory, a file in a directory's place, a loop of links. Only lengths are refused. The whole
path name may be too long, or a name that the walk meets, also in the target of a link. A name behind
the place where the walk ends is not met.

* **`FileTree.MeetsLongName`**, **`FileTree.walk_nameTooLong_iff`** — walks that meet such a name.
* **`FileTree.isPresent_error_iff`** — the path names that cannot be asked about.
-/

namespace DartLayers.FileTree

variable {tree : FileTree} {path : PathName}

/-! ## Long names -/

/-- Parts that are walked from a location, through so many links at most, lead to a name that is too
long for any entry. What stands behind that name plays no part. -/
inductive MeetsLongName (tree : FileTree) : (links : Nat) → Location → List String → Prop
  | long {links : Nat} {here : Location} {part : String} {rest : List String}
      (hhere : tree.look here = some .directory) (hname : IsName part)
      (hlong : maxNameBytes < part.utf8ByteSize) : MeetsLongName tree links here (part :: rest)
  | stay {links : Nat} {here : Location} {part : String} {rest : List String}
      (hhere : tree.look here = some .directory) (hpart : part = slashMark ∨ part = ".")
      (hrest : MeetsLongName tree links here rest) : MeetsLongName tree links here (part :: rest)
  | up {links : Nat} {here : Location} {rest : List String}
      (hhere : tree.look here = some .directory)
      (hrest : MeetsLongName tree links here.dropLast rest) :
      MeetsLongName tree links here (".." :: rest)
  | down {links : Nat} {here : Location} {part : String} {rest : List String}
      (hhere : tree.look here = some .directory) (hname : IsName part)
      (hshort : part.utf8ByteSize ≤ maxNameBytes)
      (hlink : ∀ target, tree.look (here ++ [part]) ≠ some (.link target))
      (hrest : MeetsLongName tree links (here ++ [part]) rest) :
      MeetsLongName tree links here (part :: rest)
  | follow {links : Nat} {here : Location} {part : String} {rest : List String} {target : String}
      (hhere : tree.look here = some .directory) (hname : IsName part)
      (hshort : part.utf8ByteSize ≤ maxNameBytes)
      (hlink : tree.look (here ++ [part]) = some (.link target))
      (hrest : MeetsLongName tree links (if target.startsWith "/" then [] else here)
        (linkParts target ++ rest)) : MeetsLongName tree (links + 1) here (part :: rest)

/-- A walk without links that is stopped by a name has met a long one. -/
theorem meetsLongName_of_walkTo {here : Location} {parts : List String}
    (h : tree.walkTo .target here parts = .error .nameTooLong) (links : Nat) :
    MeetsLongName tree links here parts := by
  induction parts generalizing here with
  | nil => simp [walkTo] at h
  | cons part rest ih =>
    cases stride tree .target here part rest with
    | blocked other hother hwalk =>
      cases hwalk.symm.trans h
      simp at hother
    | stay hhere hpart => exact .stay hhere hpart (ih (walkTo_stay hhere hpart ▸ h))
    | up hhere => exact .up hhere (ih (walkTo_up hhere ▸ h))
    | slash _ _ hasks => cases hasks.1
    | long hhere hname _ hlong => exact .long hhere hname hlong
    | down hhere hname hasks hshort hlink =>
      exact .down hhere hname hshort hlink (ih (walkTo_down hhere hname hasks hshort hlink ▸ h))
    | follow target hhere hname hasks hshort hgoes hlink =>
      cases (walkTo_follow hhere hname hasks hshort hgoes hlink).symm.trans h
    | link _ _ _ _ _ hpurpose => cases hpurpose

/-- What is met behind a link is met from before it, with one link more. -/
theorem meetsLongName_of_detour {here base : Location} {parts others : List String} {links : Nat}
    (h : tree.walkTo .target here parts = .ok (.detour base others))
    (hbehind : MeetsLongName tree links base others) : MeetsLongName tree (links + 1) here parts := by
  induction parts generalizing here with
  | nil => simp [walkTo] at h
  | cons part rest ih =>
    cases pass h with
    | stay hhere hpart hrest => exact .stay hhere hpart (ih hrest)
    | up hhere hrest => exact .up hhere (ih hrest)
    | down hhere hname _ hshort hlink hrest => exact .down hhere hname hshort hlink (ih hrest)
    | follow target hhere hname _ hshort _ hlink harrival =>
      cases harrival
      exact .follow hhere hname hshort hlink hbehind
    | link _ _ _ _ _ hpurpose => cases hpurpose

/-- A walk goes on as its next parts do. -/
theorem walk_congr {here there : Location} {parts others : List String}
    (h : tree.walkTo .target here parts = tree.walkTo .target there others) (links : Nat) :
    tree.walk .target links here parts = tree.walk .target links there others := by
  unfold walk
  rw [h]

/-- **A walk is refused for a name that is too long exactly if it meets one.** -/
theorem walk_nameTooLong_iff {links : Nat} {here : Location} {parts : List String} :
    tree.walk .target links here parts = .error .nameTooLong ↔
      MeetsLongName tree links here parts := by
  constructor
  · -- Each detour uses up a link, and within one the walk is a walk without links.
    intro h
    induction links generalizing here parts with
    | zero =>
      rw [walk] at h
      split at h
      · rename_i refusal hwalk
        cases h
        exact meetsLongName_of_walkTo hwalk 0
      · cases h
      · cases h
    | succ links ih =>
      rw [walk] at h
      split at h
      · rename_i refusal hwalk
        cases h
        exact meetsLongName_of_walkTo hwalk (links + 1)
      · cases h
      · rename_i base others hwalk
        exact meetsLongName_of_detour hwalk (ih h)
  · intro h
    induction h with
    | long hhere hname hlong =>
      unfold walk
      rw [walkTo_long hhere hname (not_asksDirectory (by decide) _) hlong]
    | @stay links here part rest hhere hpart _ ih =>
      rw [← ih]
      exact walk_congr (walkTo_stay hhere hpart) links
    | @up links here rest hhere _ ih =>
      rw [← ih]
      exact walk_congr (walkTo_up hhere) links
    | @down links here part rest hhere hname hshort hlink _ ih =>
      rw [← ih]
      exact walk_congr
        (walkTo_down hhere hname (not_asksDirectory (by decide) _) hshort hlink) links
    | follow hhere hname hshort hlink _ ih =>
      rw [walk, walkTo_follow hhere hname (not_asksDirectory (by decide) _) hshort
        (fun hpurpose => by cases hpurpose) hlink]
      exact ih

/-! ## Path names -/

/-- A path name without a null character is too long to be asked about: the whole of it, or a name
that its walk meets. -/
def IsTooLong (tree : FileTree) (path : PathName) : Prop :=
  path.hasNull = false ∧ (maxPathBytes < path.text.utf8ByteSize ∨
    tree.MeetsLongName maxLinks (tree.startOf path) path.parts)

theorem locate_nameTooLong_iff :
    tree.locate .target path = .error .nameTooLong ↔ tree.IsTooLong path := by
  rw [locate, IsTooLong, ← walk_nameTooLong_iff]
  cases hnull : path.hasNull with
  | true => simp
  | false =>
    by_cases hlong : maxPathBytes < path.text.utf8ByteSize
    · simp [hlong]
    · simp [hlong]

/-- What stops the way to a path name, other than its length, means that nothing is there. -/
theorem locate_error_cases {refusal : Refusal} (h : tree.locate .target path = .error refusal) :
    meansAbsent refusal = true ∨ refusal = .nameTooLong := by
  rw [locate] at h
  split at h
  · cases h
    exact .inl rfl
  · split at h
    · cases h
      exact .inr rfl
    · have hstops := stopsWalk_of_walk h
      cases refusal with
      | isDirectory => cases hstops
      | «exists» | nullByte => exact hstops.elim
      | nameTooLong => exact .inr rfl
      | noEntry | notDirectory | loop => exact .inl rfl

/-- **Whether a path name leads anywhere can be told exactly if it is not too long.** -/
theorem isPresent_error_iff {refusal : Refusal} :
    tree.isPresent path = .error refusal ↔ refusal = .nameTooLong ∧ tree.IsTooLong path := by
  rw [← locate_nameTooLong_iff, isPresent, leadsTo, find]
  cases hlocate : tree.locate .target path with
  | ok location =>
    dsimp only
    cases tree.look location <;> simp [meansAbsent]
  | error other =>
    rcases locate_error_cases hlocate with habsent | rfl
    · have hother : other ≠ .nameTooLong := by
        rintro rfl
        cases habsent
      simp [habsent, hother]
    · simp [meansAbsent, eq_comm]

end DartLayers.FileTree
