import DartLayers.FileTree.Access
import DartLayers.Proofs.FileTree.Entries
import DartLayers.Proofs.FileTree.Strides

/-!
# DartLayers — ways through directories and links

A walk looks for directories and for links, never for files. So a file that is written and a directory
that is made where nothing was leave every walk that came through as it was. This holds in trees with
links, where the location that a path name leads to cannot be read off the name.

* **`FileTree.KeepsWays`** — directories and links are where they were.
* **`FileTree.find_of_keepsWays`** — what a path name led to it still leads to.
* **`FileTree.Wrote`**, **`FileTree.wrote_of_writeText`** — a written text is where its path name
  leads, and all else is as it was.
* **`FileTree.Made`**, **`FileTree.made_makeDirectories`** — making directories makes directories only,
  each where a part of the path name leads.
-/

namespace DartLayers.FileTree

/-! ## Walks in a changed tree -/

/-- Directories and links are where they were, and no link is new. -/
structure KeepsWays (before after : FileTree) : Prop where
  home : after.home = before.home
  directories : ∀ location, before.look location = some .directory →
    after.look location = some .directory
  links : ∀ location target,
    after.look location = some (.link target) ↔ before.look location = some (.link target)

variable {tree before middle after : FileTree} {path : PathName}

theorem KeepsWays.refl (tree : FileTree) : KeepsWays tree tree :=
  ⟨rfl, fun _ h => h, fun _ _ => Iff.rfl⟩

theorem KeepsWays.trans (h₁ : KeepsWays before middle) (h₂ : KeepsWays middle after) :
    KeepsWays before after where
  home := h₂.home.trans h₁.home
  directories location h := h₂.directories location (h₁.directories location h)
  links location target := (h₂.links location target).trans (h₁.links location target)

theorem walkTo_of_keepsWays (h : KeepsWays before after) {purpose : Purpose} {here : Location}
    {parts : List String} {arrival : Arrival}
    (hwalk : before.walkTo purpose here parts = .ok arrival) :
    after.walkTo purpose here parts = .ok arrival := by
  induction parts generalizing here with
  | nil => simpa [walkTo] using hwalk
  | cons part rest ih =>
    cases pass hwalk with
    | stay hhere hpart hrest =>
      rw [walkTo_stay (h.directories here hhere) hpart]
      exact ih hrest
    | up hhere hrest =>
      rw [walkTo_up (h.directories here hhere)]
      exact ih hrest
    | down hhere hname hasks hshort hlink hrest =>
      rw [walkTo_down (h.directories here hhere) hname hasks hshort fun target hafter =>
        hlink target ((h.links _ target).1 hafter)]
      exact ih hrest
    | follow target hhere hname hasks hshort hgoes hlink harrival =>
      rw [harrival]
      exact walkTo_follow (h.directories here hhere) hname hasks hshort hgoes
        ((h.links _ target).2 hlink)
    | link target hhere hname hshort hlink hpurpose hrest harrival =>
      subst hpurpose hrest harrival
      exact walkTo_link (h.directories here hhere) hname hshort ((h.links _ target).2 hlink)

theorem walk_of_keepsWays (h : KeepsWays before after) {purpose : Purpose} {links : Nat}
    {here : Location} {parts : List String} {location : Location}
    (hwalk : before.walk purpose links here parts = .ok location) :
    after.walk purpose links here parts = .ok location := by
  rw [walk_eq_ok_iff] at hwalk ⊢
  induction hwalk with
  | place hwalk => exact .place (walkTo_of_keepsWays h hwalk)
  | detour hwalk _ ih => exact .detour (walkTo_of_keepsWays h hwalk) ih

theorem startOf_of_home (h : after.home = before.home) (path : PathName) :
    after.startOf path = before.startOf path := by
  rw [startOf, startOf, h]

theorem locate_of_keepsWays (h : KeepsWays before after) {purpose : Purpose} {location : Location}
    (hlocate : before.locate purpose path = .ok location) :
    after.locate purpose path = .ok location := by
  rw [locate_iff] at hlocate ⊢
  rw [startOf_of_home h.home]
  exact hlocate.imp_right (walk_of_keepsWays h)

theorem find_of_locate {location : Location} {kind : Kind}
    (hlocate : tree.locate .target path = .ok location) (hkind : tree.look location = some kind) :
    tree.find path = .ok (location, kind) := by
  rw [find, hlocate]
  simp only [hkind]

theorem locate_of_find {location : Location} {kind : Kind}
    (h : tree.find path = .ok (location, kind)) :
    tree.locate .target path = .ok location ∧ tree.look location = some kind := by
  rw [find] at h
  split at h
  · cases h
  · rename_i place hplace
    split at h
    · cases h
    · rename_i found hfound
      cases h
      exact ⟨hplace, hfound⟩

/-- **What a path name led to it still leads to**, if it is still there. -/
theorem find_of_keepsWays (h : KeepsWays before after) {location : Location} {kind kept : Kind}
    (hfind : before.find path = .ok (location, kind)) (hkept : after.look location = some kept) :
    after.find path = .ok (location, kept) :=
  find_of_locate (locate_of_keepsWays h (locate_of_find hfind).1) hkept

/-! ## Where walks arrive -/

/-- A location at which a walk may end: a directory, or an entry of one, known or not. Only a walk
for an entry itself ends at a link. -/
def IsEnd (tree : FileTree) (purpose : Purpose) (location : Location) : Prop :=
  tree.look location = some .directory ∨
    (location ≠ [] ∧ tree.look location.dropLast = some .directory ∧
      (purpose ≠ .entry → ∀ target, tree.look location ≠ some (.link target)))

/-- A walk ends at such a location, or turns off at a link in a directory. -/
def IsArrival (tree : FileTree) (purpose : Purpose) : Arrival → Prop
  | .place location => tree.IsEnd purpose location
  | .detour base _ => tree.look base = some .directory

/-- A directory stands in a directory, or is the root. -/
theorem look_dropLast {here : Location} (hhere : tree.look here = some .directory) :
    tree.look here.dropLast = some .directory := by
  rcases List.eq_nil_or_concat here with rfl | ⟨front, name, rfl⟩
  · exact look_nil tree
  · rw [List.concat_eq_append] at hhere ⊢
    rw [List.dropLast_concat]
    exact look_eq_directory_of_append (List.cons_ne_nil name []) (by simp [hhere])

theorem walkTo_arrives {purpose : Purpose} {here : Location} {parts : List String}
    {arrival : Arrival} (hstart : parts = [] → tree.look here = some .directory)
    (h : tree.walkTo purpose here parts = .ok arrival) : tree.IsArrival purpose arrival := by
  induction parts generalizing here with
  | nil =>
    rw [walkTo] at h
    cases h
    exact .inl (hstart rfl)
  | cons part rest ih =>
    cases pass h with
    | stay hhere _ hrest => exact ih (fun _ => hhere) hrest
    | up hhere hrest => exact ih (fun _ => look_dropLast hhere) hrest
    | down hhere _ _ _ hlink hrest =>
      cases rest with
      | nil =>
        rw [walkTo] at hrest
        cases hrest
        exact .inr ⟨by simp, by simpa using hhere, fun _ => hlink⟩
      | cons next others => exact ih (fun hnil => by cases hnil) hrest
    | follow target hhere _ _ _ _ _ harrival =>
      rw [harrival, IsArrival]
      split
      · exact look_nil tree
      · exact hhere
    | link target hhere _ _ _ hpurpose _ harrival =>
      rw [harrival]
      exact .inr ⟨by simp, by simpa using hhere, fun hnot => absurd hpurpose hnot⟩

theorem walk_arrives {purpose : Purpose} {links : Nat} {here : Location} {parts : List String}
    {location : Location} (hstart : parts = [] → tree.look here = some .directory)
    (h : tree.walk purpose links here parts = .ok location) : tree.IsEnd purpose location := by
  rw [walk_eq_ok_iff] at h
  induction h with
  | place hwalk => exact walkTo_arrives hstart hwalk
  | detour hwalk _ ih => exact ih fun _ => walkTo_arrives hstart hwalk

/-- The place where a path name starts is a directory, unless parts follow that are looked for
there. -/
def Starts (tree : FileTree) (path : PathName) : Prop :=
  path.parts = [] → tree.look (tree.startOf path) = some .directory

theorem look_startOf (hhome : tree.look tree.home = some .directory) (path : PathName) :
    tree.look (tree.startOf path) = some .directory := by
  rw [startOf]
  split
  · exact hhome
  · exact look_nil tree

theorem starts_of_home (hhome : tree.look tree.home = some .directory) (path : PathName) :
    tree.Starts path :=
  fun _ => look_startOf hhome path

theorem starts_of_parts (h : path.parts ≠ []) : tree.Starts path :=
  fun hnil => absurd hnil h

theorem locate_arrives {purpose : Purpose} {location : Location} (hstart : tree.Starts path)
    (h : tree.locate purpose path = .ok location) : tree.IsEnd purpose location :=
  walk_arrives hstart (locate_iff.1 h).2

/-- A path name without parts leads to a directory. -/
theorem parts_ne_nil_of_find (hstart : tree.Starts path) {location : Location} {kind : Kind}
    (hkind : kind ≠ .directory) (h : tree.find path = .ok (location, kind)) : path.parts ≠ [] := by
  intro hnil
  obtain ⟨hlocate, hlook⟩ := locate_of_find h
  have hwalk := (locate_iff.1 hlocate).2
  rw [hnil, walk, walkTo] at hwalk
  cases hwalk
  exact hkind (Option.some.inj (hlook.symm.trans (hstart hnil)))

/-! ## Walks for different purposes -/

/-- A walk is one for what it leads to, unless it is for an entry and ends at a link. -/
theorem walkTo_target {purpose : Purpose} {here : Location} {parts : List String} {arrival : Arrival}
    (h : tree.walkTo purpose here parts = .ok arrival) :
    tree.walkTo .target here parts = .ok arrival ∨ purpose = .entry ∧
      ∃ location target, arrival = .place location ∧ tree.look location = some (.link target) := by
  induction parts generalizing here with
  | nil => exact .inl (by simpa [walkTo] using h)
  | cons part rest ih =>
    have hasks : ¬ AsksDirectory .target rest := not_asksDirectory (by decide) rest
    cases pass h with
    | stay hhere hpart hrest =>
      rw [walkTo_stay hhere hpart]
      exact ih hrest
    | up hhere hrest =>
      rw [walkTo_up hhere]
      exact ih hrest
    | down hhere hname _ hshort hlink hrest =>
      rw [walkTo_down hhere hname hasks hshort hlink]
      exact ih hrest
    | follow target hhere hname _ hshort _ hlink harrival =>
      rw [harrival]
      exact .inl (walkTo_follow hhere hname hasks hshort (fun hpurpose => by cases hpurpose) hlink)
    | link target _ _ _ hlink hpurpose _ harrival =>
      exact .inr ⟨hpurpose, _, target, harrival, hlink⟩

theorem walk_target {purpose : Purpose} {links : Nat} {here : Location} {parts : List String}
    {location : Location}
    (hlink : purpose = .entry → ∀ target, tree.look location ≠ some (.link target))
    (h : tree.walk purpose links here parts = .ok location) :
    tree.walk .target links here parts = .ok location := by
  rw [walk_eq_ok_iff] at h ⊢
  induction h with
  | place hwalk =>
    rcases walkTo_target hwalk with htarget | ⟨hpurpose, found, target, ⟨⟩, hlook⟩
    · exact .place htarget
    · exact absurd hlook (hlink hpurpose target)
  | detour hwalk _ ih =>
    rcases walkTo_target hwalk with htarget | ⟨-, found, target, ⟨⟩, -⟩
    exact .detour htarget ih

theorem locate_target_of_newFile {location : Location}
    (h : tree.locate .newFile path = .ok location) : tree.locate .target path = .ok location :=
  locate_iff.2 ((locate_iff.1 h).imp_right (walk_target fun hpurpose => by cases hpurpose))

theorem locate_target_of_entry {location : Location}
    (hlink : ∀ target, tree.look location ≠ some (.link target))
    (h : tree.locate .entry path = .ok location) : tree.locate .target path = .ok location :=
  locate_iff.2 ((locate_iff.1 h).imp_right (walk_target fun _ => hlink))

/-! ## Null characters -/

/-- A null character is refused where a path name has one, and nowhere else. -/
theorem locate_eq_nullByte {purpose : Purpose} :
    tree.locate purpose path = .error .nullByte ↔ path.hasNull = true := by
  rw [locate]
  split
  · simp_all
  · rename_i hnull
    refine iff_of_false ?_ hnull
    split
    · simp
    · exact stopsWalk_of_walk

theorem makeDirectory_eq_nullByte :
    tree.makeDirectory path = .error .nullByte ↔ path.hasNull = true := by
  rw [← @locate_eq_nullByte tree path .entry, makeDirectory]
  cases tree.locate .entry path with
  | error refusal => simp
  | ok location =>
    dsimp only
    split <;> simp

/-- Looking for a directory is never refused for a null character: it is just not there. -/
theorem unlessDirectory_nullByte {refusal : Refusal} :
    tree.unlessDirectory path refusal = .error .nullByte → refusal = .nullByte := by
  rw [unlessDirectory, isDirectory, leadsTo]
  intro h
  split at h
  · cases h
  · cases h
    rfl
  · rename_i other hother
    cases h
    split at hother
    · cases hother
    · split at hother
      · cases hother
      · rename_i habsent
        cases hother
        exact absurd rfl habsent

theorem ensureDirectory_nullByte (h : (tree.ensureDirectory path).2 = some .nullByte) :
    path.hasNull = true := by
  rw [ensureDirectory] at h
  split at h
  · cases h
  · rename_i refusal hrefused
    split at h
    · cases h
    · rename_i other hother
      cases h
      rw [unlessDirectory_nullByte hother] at hrefused
      exact makeDirectory_eq_nullByte.1 hrefused

theorem parent_hasNull (h : path.parent.hasNull = true) : path.hasNull = true := by
  rw [PathName.hasNull, List.any_eq_true] at h ⊢
  obtain ⟨part, hpart, hnull⟩ := h
  exact ⟨part, List.dropLast_subset _ hpart, hnull⟩

theorem makeDirectories_nullByte {depth : Nat}
    (h : (makeDirectories depth tree path).2 = some .nullByte) : path.hasNull = true := by
  induction depth generalizing path with
  | zero => exact ensureDirectory_nullByte h
  | succ depth ih =>
    rw [makeDirectories] at h
    split at h
    · split at h
      · rename_i made refusal hmade
        cases h
        exact parent_hasNull (ih (by rw [hmade]))
      · split at h
        · cases h
        · exact ensureDirectory_nullByte h
    · exact ensureDirectory_nullByte h

/-- No directory is made for a path name with a null character. -/
theorem makeDirectories_of_hasNull (h : path.hasNull = true) (depth : Nat) :
    makeDirectories depth tree path = (tree, some .nullByte) := by
  have hmake : tree.makeDirectory path = .error .nullByte := makeDirectory_eq_nullByte.2 h
  have hensure : tree.ensureDirectory path = (tree, some .nullByte) := by
    have hfind : tree.find path = .error .nullByte := by
      rw [find, locate_eq_nullByte.2 h]
    have hunless : tree.unlessDirectory path .nullByte = .error .nullByte := by
      rw [unlessDirectory, isDirectory, leadsTo, hfind]
      rfl
    rw [ensureDirectory, hmake]
    dsimp only
    rw [hunless]
  cases depth with
  | zero => exact hensure
  | succ depth =>
    rw [makeDirectories, hmake]
    exact hensure

/-! ## What operations change -/

/-- Ways are kept where an entry, no link, is put into a directory at a place that is no way. -/
theorem keepsWays_put {location : Location} {entry : Entry} (hne : location ≠ [])
    (hparent : tree.look location.dropLast = some .directory)
    (hnot : tree.look location ≠ some .directory)
    (hlink : ∀ target, tree.look location ≠ some (.link target)) (hflat : entry.inner = [])
    (hentry : ∀ target, entry.kind ≠ .link target) : KeepsWays tree (tree.put location entry) := by
  have hlook := look_put tree hne hparent hnot hflat
  refine ⟨rfl, fun other hother => ?_, fun other target => ?_⟩
  · rw [hlook, if_neg fun heq : other = location => hnot (heq ▸ hother), hother]
  · rw [hlook]
    split
    · rename_i heq
      subst heq
      simp [hentry target, hlink target]
    · exact Iff.rfl

/-- A tree has become another one by bytes written to the file that a path name leads to. -/
structure Wrote (before after : FileTree) (path : PathName) (location : Location)
    (bytes : ByteArray) : Prop where
  keeps : KeepsWays before after
  place : before.locate .newFile path = .ok location
  found : after.find path = .ok (location, .file bytes)
  free : ∀ kind, before.look location = some kind → ∃ old, kind = .file old
  others : ∀ other, other ≠ location → after.look other = before.look other

/-- **A text that could be written is what its path name leads to**, and nothing else has changed. -/
theorem wrote_of_writeText (hstart : tree.Starts path) {text : String}
    (h : tree.writeText path text = .ok after) :
    ∃ location, Wrote tree after path location text.toUTF8 := by
  rw [writeText, writeBytes] at h
  split at h
  · cases h
  · rename_i location hlocation
    split at h
    · cases h
    · rename_i hdirectory
      cases h
      have hnot : tree.look location ≠ some .directory := by
        intro hlook
        simp [isDirectoryAt, hlook] at hdirectory
      rcases locate_arrives hstart hlocation with hplace | ⟨hne, hparent, hlink⟩
      · exact absurd hplace hnot
      · have hlinks := hlink (by simp)
        have hlook := @look_put tree location hne hparent hnot (.file text.toUTF8) rfl
        have hkeeps : KeepsWays tree (tree.put location (.file text.toUTF8)) :=
          keepsWays_put hne hparent hnot hlinks rfl (by simp [Entry.kind])
        refine ⟨location, hkeeps, hlocation, ?_, fun kind hkind => ?_, fun other hother => ?_⟩
        · have htarget := locate_of_keepsWays hkeeps (locate_target_of_newFile hlocation)
          exact find_of_locate htarget (by rw [hlook, if_pos rfl, Entry.kind])
        · cases kind with
          | file old => exact ⟨old, rfl⟩
          | link target => exact absurd hkind (hlinks target)
          | directory => exact absurd hkind hnot
        · rw [hlook, if_neg hother]

/-- A tree has become another one by directories made where nothing was, each of them where a part of
a path name leads to. -/
structure Made (path : PathName) (before after : FileTree) : Prop where
  keeps : KeepsWays before after
  made : ∀ location, after.look location = before.look location ∨
    before.look location = none ∧
      ∃ parts, parts <+: path.parts ∧
        after.find ⟨path.root, parts⟩ = .ok (location, .directory)

namespace Made

theorem refl (path : PathName) (tree : FileTree) : Made path tree tree :=
  ⟨.refl tree, fun _ => .inl rfl⟩

theorem trans (h₁ : Made path before middle) (h₂ : Made path middle after) :
    Made path before after where
  keeps := h₁.keeps.trans h₂.keeps
  made location := by
    rcases h₂.made location with hsame | ⟨hnone, hfound⟩
    · rcases h₁.made location with hkept | ⟨hnone, parts, hparts, hfound⟩
      · exact .inl (hsame.trans hkept)
      · exact .inr ⟨hnone, parts, hparts, find_of_keepsWays h₂.keeps hfound
          (h₂.keeps.directories location (locate_of_find hfound).2)⟩
    · rcases h₁.made location with hkept | ⟨hbefore, -⟩
      · exact .inr ⟨hkept.symm.trans hnone, hfound⟩
      · exact .inr ⟨hbefore, hfound⟩

/-- Directories made for the parent of a path name are made for the path name. -/
theorem of_parent (h : Made path.parent before after) : Made path before after where
  keeps := h.keeps
  made location := by
    rcases h.made location with hsame | ⟨hnone, parts, hparts, hfound⟩
    · exact .inl hsame
    · exact .inr ⟨hnone, parts, hparts.trans (List.dropLast_prefix path.parts), hfound⟩

theorem fileAt_eq (h : Made path before after) (location : Location) :
    after.fileAt location = before.fileAt location := by
  rcases h.made location with hsame | ⟨hnone, parts, -, hfound⟩
  · exact fileAt_congr hsame
  · simp [fileAt, hnone, (locate_of_find hfound).2]

end Made

theorem made_makeDirectory (hhome : tree.look tree.home = some .directory)
    (h : tree.makeDirectory path = .ok after) : Made path tree after := by
  rw [makeDirectory] at h
  split at h
  · cases h
  · rename_i location hlocation
    split at h
    · cases h
    · rename_i hnone
      cases h
      rcases locate_arrives (starts_of_home hhome path) hlocation with
        hplace | ⟨hne, hparent, -⟩
      · rw [hnone] at hplace
        cases hplace
      · have hlook := @look_put tree location hne hparent (by simp [hnone]) (.directory []) rfl
        have hkeeps : KeepsWays tree (tree.put location (.directory [])) :=
          keepsWays_put hne hparent (by simp [hnone]) (by simp [hnone]) rfl (by simp [Entry.kind])
        refine ⟨hkeeps, fun other => ?_⟩
        by_cases hother : other = location
        · subst hother
          have htarget := locate_target_of_entry (by simp [hnone]) hlocation
          refine .inr ⟨hnone, path.parts, List.prefix_rfl, ?_⟩
          exact find_of_locate (locate_of_keepsWays hkeeps htarget)
            (by rw [hlook, if_pos rfl, Entry.kind])
        · exact .inl (by rw [hlook, if_neg hother])

theorem made_ensureDirectory (hhome : tree.look tree.home = some .directory) (path : PathName) :
    Made path tree (tree.ensureDirectory path).1 := by
  rw [ensureDirectory]
  split
  · rename_i made hmade
    exact made_makeDirectory hhome hmade
  · split <;> exact .refl path tree

/-- **Making directories makes directories only**, also where it is refused in the end. -/
theorem made_makeDirectories (depth : Nat) (hhome : tree.look tree.home = some .directory)
    (path : PathName) : Made path tree (makeDirectories depth tree path).1 := by
  induction depth generalizing path with
  | zero => exact made_ensureDirectory hhome path
  | succ depth ih =>
    have hparents := ih path.parent
    rw [makeDirectories]
    split
    · split
      · rename_i made refusal hmade
        rw [hmade] at hparents
        exact hparents.of_parent
      · rename_i made hmade
        rw [hmade] at hparents
        have hmadeHome : made.look made.home = some .directory := by
          rw [hparents.keeps.home]
          exact hparents.keeps.directories _ hhome
        split
        · exact hparents.of_parent
        · exact hparents.of_parent.trans (made_ensureDirectory hmadeHome path)
    · exact made_ensureDirectory hhome path

end DartLayers.FileTree
