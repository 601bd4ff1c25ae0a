import DartLayers.FileTree.Walk

/-!
# DartLayers — the strides of a walk

A walk takes up its parts one by one, and there are few ways to take up a part: the walk is blocked
where it stands, stays there, goes up, takes a name down to an entry, or meets a link under that name.
What is known of walks is read off from this list, and from the detours that a walk makes at its links.

* **`FileTree.Stride`**, **`FileTree.stride`** — how a walk takes up its first part.
* **`FileTree.Pass`**, **`FileTree.pass`** — how a walk that comes through does so.
* **`FileTree.Reaches`**, **`FileTree.walk_eq_ok_iff`** — a walk through links ends at a location.
* **`FileTree.locate_iff`** — a path name leads to where its walk ends.
-/

namespace DartLayers

/-- A part that names an entry: neither empty nor a dot nor a double dot. -/
def IsName (part : String) : Prop :=
  part ≠ slashMark ∧ part ≠ "." ∧ part ≠ ".."

instance (part : String) : Decidable (IsName part) :=
  inferInstanceAs (Decidable (_ ∧ _ ∧ _))

theorem part_cases (part : String) :
    (part = slashMark ∨ part = ".") ∨ part = ".." ∨ IsName part := by
  by_cases hstay : part = slashMark ∨ part = "."
  · exact .inl hstay
  · by_cases hup : part = ".."
    · exact .inr (.inl hup)
    · exact .inr (.inr ⟨fun h => hstay (.inl h), fun h => hstay (.inr h), hup⟩)

namespace FileTree

/-- A file is to be made, but a slash at its name asks for a directory. -/
def AsksDirectory (purpose : Purpose) (rest : List String) : Prop :=
  purpose = .newFile ∧ rest = [slashMark]

theorem not_asksDirectory_nil {purpose : Purpose} : ¬ AsksDirectory purpose [] := by
  rintro ⟨-, ⟨⟩⟩

theorem not_asksDirectory {purpose : Purpose} (hpurpose : purpose ≠ .newFile) (rest : List String) :
    ¬ AsksDirectory purpose rest :=
  fun hasks => hpurpose hasks.1

/-- A way that ends with a name asks for no directory. -/
theorem not_asksDirectory_concat {purpose : Purpose} {name : String} (hname : IsName name)
    (front : List String) : ¬ AsksDirectory purpose (front ++ [name]) := by
  rintro ⟨-, hsame⟩
  have hlast := congrArg List.getLast? hsame
  rw [List.getLast?_concat] at hlast
  exact hname.1 (Option.some.inj hlast)

/-! ## One part -/

variable {tree : FileTree} {purpose : Purpose} {here : Location} {part : String} {rest : List String}

theorem walkTo_noEntry (hhere : tree.look here = none) :
    tree.walkTo purpose here (part :: rest) = .error .noEntry := by
  rw [walkTo, hhere]

section

variable (hhere : tree.look here = some .directory)

include hhere

theorem walkTo_stay (hpart : part = slashMark ∨ part = ".") :
    tree.walkTo purpose here (part :: rest) = tree.walkTo purpose here rest := by
  rw [walkTo, hhere]
  simp [hpart]

theorem walkTo_up : tree.walkTo purpose here (".." :: rest) =
    tree.walkTo purpose here.dropLast rest := by
  rw [walkTo, hhere]
  simp [slashMark]

theorem walkTo_slash (hname : IsName part) (hasks : AsksDirectory purpose rest) :
    tree.walkTo purpose here (part :: rest) = .error .isDirectory := by
  obtain ⟨hslash, hdot, hdots⟩ := hname
  obtain ⟨rfl, rfl⟩ := hasks
  rw [walkTo, hhere]
  simp [hslash, hdot, hdots]

/-- A name is looked for, unless it is too long. -/
theorem walkTo_name (hname : IsName part) (hasks : ¬ AsksDirectory purpose rest) :
    tree.walkTo purpose here (part :: rest) =
      if part.utf8ByteSize > maxNameBytes then .error .nameTooLong
      else match tree.look (here ++ [part]) with
        | some (.link target) =>
          if rest.isEmpty && purpose = .entry then .ok (.place (here ++ [part]))
          else .ok (.detour (if target.startsWith "/" then [] else here) (linkParts target ++ rest))
        | _ => tree.walkTo purpose (here ++ [part]) rest := by
  obtain ⟨hslash, hdot, hdots⟩ := hname
  have hnot : ¬ (decide (purpose = .newFile) && decide (rest = [slashMark])) = true := by
    simpa [AsksDirectory] using hasks
  have hstay : ¬ (decide (part = slashMark) || decide (part = ".")) = true := by
    simp [hslash, hdot]
  rw [walkTo, hhere]
  exact (if_neg hstay).trans ((if_neg hdots).trans (if_neg hnot))

theorem walkTo_long (hname : IsName part) (hasks : ¬ AsksDirectory purpose rest)
    (hlong : maxNameBytes < part.utf8ByteSize) :
    tree.walkTo purpose here (part :: rest) = .error .nameTooLong := by
  rw [walkTo_name hhere hname hasks, if_pos hlong]

theorem walkTo_down (hname : IsName part) (hasks : ¬ AsksDirectory purpose rest)
    (hshort : part.utf8ByteSize ≤ maxNameBytes)
    (hlink : ∀ target, tree.look (here ++ [part]) ≠ some (.link target)) :
    tree.walkTo purpose here (part :: rest) = tree.walkTo purpose (here ++ [part]) rest := by
  rw [walkTo_name hhere hname hasks, if_neg (Nat.not_lt.2 hshort)]
  split
  · exact absurd ‹_› (hlink _)
  · rfl

theorem walkTo_follow (hname : IsName part) (hasks : ¬ AsksDirectory purpose rest)
    (hshort : part.utf8ByteSize ≤ maxNameBytes) (hgoes : purpose = .entry → rest ≠ [])
    {target : String} (hlink : tree.look (here ++ [part]) = some (.link target)) :
    tree.walkTo purpose here (part :: rest) =
      .ok (.detour (if target.startsWith "/" then [] else here) (linkParts target ++ rest)) := by
  have hnot : ¬ (rest.isEmpty && decide (purpose = .entry)) = true := by
    rw [Bool.and_eq_true, List.isEmpty_iff, decide_eq_true_eq]
    exact fun ⟨hnil, hpurpose⟩ => hgoes hpurpose hnil
  rw [walkTo_name hhere hname hasks, if_neg (Nat.not_lt.2 hshort), hlink]
  exact if_neg hnot

/-- A walk for an entry itself ends at a link. -/
theorem walkTo_link (hname : IsName part) (hshort : part.utf8ByteSize ≤ maxNameBytes)
    {target : String} (hlink : tree.look (here ++ [part]) = some (.link target)) :
    tree.walkTo .entry here [part] = .ok (.place (here ++ [part])) := by
  rw [walkTo_name hhere hname (not_asksDirectory (by decide) []), if_neg (Nat.not_lt.2 hshort), hlink]
  rfl

end

/-- The ways in which a walk takes up its first part. -/
inductive Stride (tree : FileTree) (purpose : Purpose) (here : Location) (rest : List String) :
    String → Prop
  | blocked {part : String} (refusal : Refusal)
      (hrefusal : refusal = .noEntry ∨ refusal = .notDirectory)
      (hwalk : tree.walkTo purpose here (part :: rest) = .error refusal) :
      Stride tree purpose here rest part
  | stay {part : String} (hhere : tree.look here = some .directory)
      (hpart : part = slashMark ∨ part = ".") : Stride tree purpose here rest part
  | up (hhere : tree.look here = some .directory) : Stride tree purpose here rest ".."
  | slash {part : String} (hhere : tree.look here = some .directory) (hname : IsName part)
      (hasks : AsksDirectory purpose rest) : Stride tree purpose here rest part
  | long {part : String} (hhere : tree.look here = some .directory) (hname : IsName part)
      (hasks : ¬ AsksDirectory purpose rest) (hlong : maxNameBytes < part.utf8ByteSize) :
      Stride tree purpose here rest part
  | down {part : String} (hhere : tree.look here = some .directory) (hname : IsName part)
      (hasks : ¬ AsksDirectory purpose rest) (hshort : part.utf8ByteSize ≤ maxNameBytes)
      (hlink : ∀ target, tree.look (here ++ [part]) ≠ some (.link target)) :
      Stride tree purpose here rest part
  | follow {part : String} (target : String) (hhere : tree.look here = some .directory)
      (hname : IsName part) (hasks : ¬ AsksDirectory purpose rest)
      (hshort : part.utf8ByteSize ≤ maxNameBytes) (hgoes : purpose = .entry → rest ≠ [])
      (hlink : tree.look (here ++ [part]) = some (.link target)) : Stride tree purpose here rest part
  | link {part : String} (target : String) (hhere : tree.look here = some .directory)
      (hname : IsName part) (hshort : part.utf8ByteSize ≤ maxNameBytes)
      (hlink : tree.look (here ++ [part]) = some (.link target)) (hpurpose : purpose = .entry)
      (hrest : rest = []) : Stride tree purpose here rest part

theorem stride (tree : FileTree) (purpose : Purpose) (here : Location) (part : String)
    (rest : List String) : Stride tree purpose here rest part := by
  cases hhere : tree.look here with
  | none => exact .blocked .noEntry (.inl rfl) (walkTo_noEntry hhere)
  | some kind =>
    cases kind with
    | file bytes => exact .blocked .notDirectory (.inr rfl) (by rw [walkTo, hhere])
    | link target => exact .blocked .notDirectory (.inr rfl) (by rw [walkTo, hhere])
    | directory =>
      rcases part_cases part with hstay | rfl | hname
      · exact .stay hhere hstay
      · exact .up hhere
      · by_cases hasks : AsksDirectory purpose rest
        · exact .slash hhere hname hasks
        · by_cases hlong : maxNameBytes < part.utf8ByteSize
          · exact .long hhere hname hasks hlong
          · by_cases hlink : ∃ target, tree.look (here ++ [part]) = some (.link target)
            · obtain ⟨target, hlink⟩ := hlink
              by_cases hends : purpose = .entry ∧ rest = []
              · exact .link target hhere hname (Nat.not_lt.1 hlong) hlink hends.1 hends.2
              · exact .follow target hhere hname hasks (Nat.not_lt.1 hlong)
                  (fun hpurpose hnil => hends ⟨hpurpose, hnil⟩) hlink
            · exact .down hhere hname hasks (Nat.not_lt.1 hlong) (not_exists.1 hlink)

/-- The ways in which a walk that comes through takes up its first part. -/
inductive Pass (tree : FileTree) (purpose : Purpose) (here : Location) (rest : List String)
    (arrival : Arrival) : String → Prop
  | stay {part : String} (hhere : tree.look here = some .directory)
      (hpart : part = slashMark ∨ part = ".") (hrest : tree.walkTo purpose here rest = .ok arrival) :
      Pass tree purpose here rest arrival part
  | up (hhere : tree.look here = some .directory)
      (hrest : tree.walkTo purpose here.dropLast rest = .ok arrival) :
      Pass tree purpose here rest arrival ".."
  | down {part : String} (hhere : tree.look here = some .directory) (hname : IsName part)
      (hasks : ¬ AsksDirectory purpose rest) (hshort : part.utf8ByteSize ≤ maxNameBytes)
      (hlink : ∀ target, tree.look (here ++ [part]) ≠ some (.link target))
      (hrest : tree.walkTo purpose (here ++ [part]) rest = .ok arrival) :
      Pass tree purpose here rest arrival part
  | follow {part : String} (target : String) (hhere : tree.look here = some .directory)
      (hname : IsName part) (hasks : ¬ AsksDirectory purpose rest)
      (hshort : part.utf8ByteSize ≤ maxNameBytes) (hgoes : purpose = .entry → rest ≠ [])
      (hlink : tree.look (here ++ [part]) = some (.link target))
      (harrival : arrival =
        .detour (if target.startsWith "/" then [] else here) (linkParts target ++ rest)) :
      Pass tree purpose here rest arrival part
  | link {part : String} (target : String) (hhere : tree.look here = some .directory)
      (hname : IsName part) (hshort : part.utf8ByteSize ≤ maxNameBytes)
      (hlink : tree.look (here ++ [part]) = some (.link target)) (hpurpose : purpose = .entry)
      (hrest : rest = []) (harrival : arrival = .place (here ++ [part])) :
      Pass tree purpose here rest arrival part

theorem pass {arrival : Arrival} (h : tree.walkTo purpose here (part :: rest) = .ok arrival) :
    Pass tree purpose here rest arrival part := by
  cases stride tree purpose here part rest with
  | blocked refusal _ hwalk => cases hwalk.symm.trans h
  | stay hhere hpart => exact .stay hhere hpart (walkTo_stay hhere hpart ▸ h)
  | up hhere => exact .up hhere (walkTo_up hhere ▸ h)
  | slash hhere hname hasks => cases (walkTo_slash hhere hname hasks).symm.trans h
  | long hhere hname hasks hlong => cases (walkTo_long hhere hname hasks hlong).symm.trans h
  | down hhere hname hasks hshort hlink =>
    exact .down hhere hname hasks hshort hlink (walkTo_down hhere hname hasks hshort hlink ▸ h)
  | follow target hhere hname hasks hshort hgoes hlink =>
    rw [walkTo_follow hhere hname hasks hshort hgoes hlink] at h
    exact .follow target hhere hname hasks hshort hgoes hlink (Except.ok.inj h).symm
  | link target hhere hname hshort hlink hpurpose hrest =>
    subst hpurpose hrest
    rw [walkTo_link hhere hname hshort hlink] at h
    exact .link target hhere hname hshort hlink rfl rfl (Except.ok.inj h).symm

/-- What stops a walk: something is missing, a name is too long, there are too many links, or a slash
is behind the name of a new file. -/
def StopsWalk (purpose : Purpose) : Refusal → Prop
  | .noEntry | .notDirectory | .nameTooLong | .loop => True
  | .isDirectory => purpose = .newFile
  | .exists | .nullByte => False

theorem stopsWalk_of_walkTo {parts : List String} {refusal : Refusal}
    (h : tree.walkTo purpose here parts = .error refusal) : StopsWalk purpose refusal := by
  induction parts generalizing here with
  | nil => simp [walkTo] at h
  | cons part rest ih =>
    cases stride tree purpose here part rest with
    | blocked other hother hwalk =>
      cases hwalk.symm.trans h
      rcases hother with rfl | rfl <;> trivial
    | stay hhere hpart => exact ih (walkTo_stay hhere hpart ▸ h)
    | up hhere => exact ih (walkTo_up hhere ▸ h)
    | slash hhere hname hasks =>
      cases (walkTo_slash hhere hname hasks).symm.trans h
      exact hasks.1
    | long hhere hname hasks hlong =>
      cases (walkTo_long hhere hname hasks hlong).symm.trans h
      trivial
    | down hhere hname hasks hshort hlink => exact ih (walkTo_down hhere hname hasks hshort hlink ▸ h)
    | follow target hhere hname hasks hshort hgoes hlink =>
      cases (walkTo_follow hhere hname hasks hshort hgoes hlink).symm.trans h
    | link target hhere hname hshort hlink hpurpose hrest =>
      subst hpurpose hrest
      cases (walkTo_link hhere hname hshort hlink).symm.trans h

/-! ## Detours -/

variable {links : Nat} {location : Location} {parts : List String}

/-- A walk through so many links at most ends at a location: without a detour, or behind one. -/
inductive Reaches (tree : FileTree) (purpose : Purpose) (location : Location) :
    (links : Nat) → Location → List String → Prop
  | place {links : Nat} {here : Location} {parts : List String}
      (hwalk : tree.walkTo purpose here parts = .ok (.place location)) :
      Reaches tree purpose location links here parts
  | detour {links : Nat} {here base : Location} {parts others : List String}
      (hwalk : tree.walkTo purpose here parts = .ok (.detour base others))
      (hrest : Reaches tree purpose location links base others) :
      Reaches tree purpose location (links + 1) here parts

theorem walk_eq_ok_iff : tree.walk purpose links here parts = .ok location ↔
    Reaches tree purpose location links here parts := by
  constructor
  · intro h
    induction links generalizing here parts with
    | zero =>
      rw [walk] at h
      split at h
      · cases h
      · cases h
        exact .place ‹_›
      · cases h
    | succ links ih =>
      rw [walk] at h
      split at h
      · cases h
      · cases h
        exact .place ‹_›
      · exact .detour ‹_› (ih h)
  · intro h
    induction h with
    | place hwalk => rw [walk, hwalk]
    | detour hwalk _ ih =>
      rw [walk, hwalk]
      exact ih

/-- A walk that is not sent on a detour is one walk over the parts. -/
theorem walk_of_place (h : tree.walkTo purpose here parts = .ok (.place location)) (links : Nat) :
    tree.walk purpose links here parts = .ok location :=
  walk_eq_ok_iff.2 (.place h)

theorem stopsWalk_of_walk {refusal : Refusal}
    (h : tree.walk purpose links here parts = .error refusal) : StopsWalk purpose refusal := by
  induction links generalizing here parts with
  | zero =>
    rw [walk] at h
    split at h
    · cases h
      exact stopsWalk_of_walkTo ‹_›
    · cases h
    · cases h
      trivial
  | succ links ih =>
    rw [walk] at h
    split at h
    · cases h
      exact stopsWalk_of_walkTo ‹_›
    · cases h
    · exact ih h

/-! ## Path names -/

/-- A path name that the system takes: it has no null character and is not too long. -/
def Accepted (path : PathName) : Prop :=
  path.hasNull = false ∧ path.text.utf8ByteSize ≤ maxPathBytes

instance (path : PathName) : Decidable (Accepted path) :=
  inferInstanceAs (Decidable (_ ∧ _))

theorem Accepted.locate_eq {path : PathName} (h : Accepted path) (tree : FileTree)
    (purpose : Purpose) :
    tree.locate purpose path = tree.walk purpose maxLinks (tree.startOf path) path.parts := by
  rw [locate, if_neg (by simp [h.1]), if_neg (Nat.not_lt.2 h.2)]

/-- A path name leads to where its walk ends, if the system takes it. -/
theorem locate_iff {path : PathName} : tree.locate purpose path = .ok location ↔
    Accepted path ∧ tree.walk purpose maxLinks (tree.startOf path) path.parts = .ok location := by
  constructor
  · intro h
    have haccepted : Accepted path := by
      rw [locate] at h
      split at h
      · cases h
      · rename_i hnull
        split at h
        · cases h
        · exact ⟨by simpa using hnull, Nat.le_of_not_lt ‹_›⟩
    exact ⟨haccepted, haccepted.locate_eq tree purpose ▸ h⟩
  · rintro ⟨haccepted, h⟩
    rw [haccepted.locate_eq, h]

end FileTree

end DartLayers
