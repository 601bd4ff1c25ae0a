import DartLayers.Merge
import DartLayers.Proofs.FileTree.Site

/-!
# DartLayers — how operations let a tree grow

No operation of a run takes anything away. Directories are made where nothing was, and a file is
written at one site; all other files keep their bytes. `Grows` says this of a tree before and after
any number of operations, with the sites that may have been written.

* **`FileTree.Grows`** — the relation, closed under composition.
* **`FileTree.grows_makeDirectories`** — making directories writes no site.
* **`FileTree.writeText_eq_ok`**, **`FileTree.createText_eq_ok`** — a written text is at its site.
-/

namespace DartLayers.FileTree

/-! ## Growth -/

/-- A tree has become another one by operations that wrote files at some sites at most. -/
structure Grows (sites : List Location) (before after : FileTree) : Prop where
  home : after.home = before.home
  linkFree : before.LinkFree → after.LinkFree
  directories : ∀ location, before.look location = some .directory →
    after.look location = some .directory
  present : ∀ location, before.look location ≠ none → after.look location ≠ none
  files : ∀ location, location ∉ sites → after.fileAt location = before.fileAt location

namespace Grows

variable {sites others : List Location} {before middle after : FileTree}

theorem refl (sites : List Location) (tree : FileTree) : Grows sites tree tree where
  home := rfl
  linkFree h := h
  directories _ h := h
  present _ h := h
  files _ _ := rfl

theorem trans (h₁ : Grows sites before middle) (h₂ : Grows others middle after) :
    Grows (sites ++ others) before after where
  home := h₂.home.trans h₁.home
  linkFree h := h₂.linkFree (h₁.linkFree h)
  directories location h := h₂.directories location (h₁.directories location h)
  present location h := h₂.present location (h₁.present location h)
  files location h := by
    rw [List.mem_append, not_or] at h
    rw [h₂.files location h.2, h₁.files location h.1]

theorem mono (h : Grows sites before after) (hsub : sites ⊆ others) :
    Grows others before after where
  home := h.home
  linkFree := h.linkFree
  directories := h.directories
  present := h.present
  files location hlocation := h.files location fun hmem => hlocation (hsub hmem)

/-- Growth twice over the same sites. -/
theorem trans_same (h₁ : Grows sites before middle) (h₂ : Grows sites middle after) :
    Grows sites before after :=
  (h₁.trans h₂).mono (by simp)

/-- A path name has the same site all the time. -/
theorem siteOf (h : Grows sites before after) (path : PathName) :
    after.siteOf path = before.siteOf path := by
  rw [FileTree.siteOf, FileTree.siteOf, startOf, startOf, h.home]

/-- What is missing afterwards was missing before. -/
theorem look_eq_none (h : Grows sites before after) {location : Location}
    (hnone : after.look location = none) : before.look location = none :=
  Classical.byContradiction fun hsome => h.present location hsome hnone

/-- A walk that came through still does. -/
theorem walkable (h : Grows sites before after) {path : PathName}
    (hwalk : before.Walkable (before.startOf path) path.parts) :
    after.Walkable (after.startOf path) path.parts := by
  have hstart : after.startOf path = before.startOf path := by
    rw [startOf, startOf, h.home]
  rw [hstart]
  exact hwalk.mono h.directories

end Grows

/-- Putting a file or an empty directory where no directory is lets a tree grow. -/
theorem grows_put (tree : FileTree) {location : Location} {entry : Entry}
    (hflat : entry.inner = []) (hlink : ∀ target, entry.kind ≠ .link target)
    (hnot : tree.look location ≠ some .directory) :
    Grows [location] tree (tree.put location entry) := by
  have hne : location ≠ [] := fun hnil => hnot (by rw [hnil, look_nil])
  by_cases hparent : tree.look location.dropLast = some .directory
  · have hlook := look_put tree hne hparent hnot hflat
    refine ⟨rfl, fun hfree other target => ?_, fun other hother => ?_, fun other hother => ?_,
      fun other hother => fileAt_congr ?_⟩
    · rw [hlook]
      split
      · exact fun h => hlink target (Option.some.inj h)
      · exact hfree other target
    · rw [hlook, if_neg fun heq : other = location => hnot (heq ▸ hother), hother]
    · rw [hlook]
      split
      · exact Option.some_ne_none _
      · exact hother
    · rw [hlook, if_neg fun heq => hother (by simp [heq])]
  · have hlook := look_put_of_missing tree hne hparent entry
    exact ⟨rfl, fun hfree other target => hlook other ▸ hfree other target,
      fun other hother => (hlook other).trans hother,
      fun other hother => (hlook other).symm ▸ hother,
      fun other _ => fileAt_congr (hlook other)⟩

/-! ## Directories -/

/-- Making a directory writes no file. -/
theorem grows_makeDirectory {tree after : FileTree} {path : PathName}
    (h : tree.makeDirectory path = .ok after) : Grows [] tree after := by
  rw [makeDirectory] at h
  split at h
  · cases h
  · rename_i location hlocation
    split at h
    · cases h
    · rename_i hnone
      cases h
      have hput : Grows [location] tree (tree.put location (.directory [])) :=
        grows_put tree rfl (fun target => by simp [Entry.kind]) (by simp [hnone])
      refine ⟨hput.home, hput.linkFree, hput.directories, hput.present, fun other _ => ?_⟩
      by_cases hother : other = location
      · -- The new directory is no file, and nothing was there.
        subst hother
        have hne : other ≠ [] := fun hnil => by simp [hnil] at hnone
        have hbefore : tree.fileAt other = none := by simp [fileAt, hnone]
        rw [hbefore]
        by_cases hparent : tree.look other.dropLast = some .directory
        · have hflat : (Entry.directory []).inner = [] := rfl
          have hlook := look_put tree hne hparent (by simp [hnone]) hflat other
          simp [fileAt, hlook, Entry.kind]
        · have hlook := look_put_of_missing tree hne hparent (.directory []) other
          simp [fileAt, hlook, hnone]
      · exact hput.files other (by simpa using hother)

theorem grows_ensureDirectory (tree : FileTree) (path : PathName) :
    Grows [] tree (tree.ensureDirectory path).1 := by
  rw [ensureDirectory]
  split
  · rename_i after hafter
    exact grows_makeDirectory hafter
  · split <;> exact .refl [] tree

/-- Making directories writes no file, whether or not it is refused. -/
theorem grows_makeDirectories (depth : Nat) (tree : FileTree) (path : PathName) :
    Grows [] tree (makeDirectories depth tree path).1 := by
  induction depth generalizing tree path with
  | zero => exact grows_ensureDirectory tree path
  | succ depth ih =>
    have hparents := ih tree path.parent
    rw [makeDirectories]
    split
    · split
      · rename_i after refusal hafter
        simpa [hafter] using hparents
      · rename_i after hafter
        rw [hafter] at hparents
        split
        · exact hparents
        · exact hparents.trans_same (grows_ensureDirectory after path)
    · exact grows_ensureDirectory tree path

/-! ## Files -/

/-- A path name whose last part is a name, so that it may lead to a file. -/
def NamesFile (path : PathName) : Prop :=
  ∃ parts name, path.parts = parts ++ [name] ∧ IsName name

/-- The site of a path name that may lead to a file stands in the directory that is walked to. -/
theorem siteOf_of_namesFile {tree : FileTree} {path : PathName} (hfile : NamesFile path)
    (hwalk : tree.Walkable (tree.startOf path) path.parts) :
    tree.siteOf path ≠ [] ∧ tree.look (tree.siteOf path).dropLast = some .directory := by
  obtain ⟨parts, name, hparts, hname⟩ := hfile
  have hsite : tree.siteOf path = siteFrom (tree.startOf path) parts ++ [name] := by
    rw [siteOf, hparts, siteFrom_append,
      siteFrom_of_names (by simpa using hname : ∀ part ∈ [name], IsName part)]
  rw [hparts, walkable_append] at hwalk
  rw [hsite]
  refine ⟨by simp, ?_⟩
  rw [List.dropLast_concat]
  exact hwalk.2.1

/-- A walk that comes through to a name comes through for a new file, too. -/
theorem walkTo_newFile_of_walkable {tree : FileTree} (hfree : tree.LinkFree) {here : Location}
    {parts : List String} {name : String} (hname : IsName name)
    (h : tree.Walkable here (parts ++ [name])) :
    tree.walkTo .newFile here (parts ++ [name]) = .ok (.place (siteFrom here (parts ++ [name]))) := by
  obtain ⟨hway, hlast⟩ := walkable_append.1 h
  obtain ⟨hhere, hshort, -⟩ := (walkable_name_iff hname).1 hlast
  rw [walkTo_append_of_walkable hfree [name] (not_asksDirectory_concat hname) hway,
    walkTo_down hhere hname not_asksDirectory_nil hshort (hfree _), walkTo, siteFrom_append,
    siteFrom_name _ _ hname, siteFrom]

/-- A file that is there can be written again. -/
theorem exists_writeText {tree : FileTree} (hfree : tree.LinkFree) {path : PathName}
    (hfile : NamesFile path) {location : Location} {bytes : ByteArray}
    (hfind : tree.find path = .ok (location, .file bytes)) (text : String) :
    ∃ after, tree.writeText path text = .ok after := by
  obtain ⟨rfl, haccepted, hwalk, hlook⟩ := (find_eq_ok_iff hfree).1 hfind
  obtain ⟨parts, name, hparts, hname⟩ := hfile
  have hlocate : tree.locate .newFile path = .ok (tree.siteOf path) := by
    rw [haccepted.locate_eq, siteOf]
    rw [hparts] at hwalk ⊢
    exact walk_of_place (walkTo_newFile_of_walkable hfree hname hwalk) maxLinks
  rw [writeText, writeBytes, hlocate]
  simp [isDirectoryAt, hlook]

/-- A text that could be written is at its site, and no other file has changed. -/
theorem writeText_eq_ok {tree after : FileTree} (hfree : tree.LinkFree) {path : PathName}
    (hfile : NamesFile path) {text : String} (h : tree.writeText path text = .ok after) :
    Grows [tree.siteOf path] tree after ∧ after.fileAt (tree.siteOf path) = some text.toUTF8 ∧
      Accepted path ∧ tree.Walkable (tree.startOf path) path.parts ∧
        tree.look (tree.siteOf path) ≠ some .directory := by
  rw [writeText, writeBytes] at h
  split at h
  · cases h
  · rename_i location hlocation
    obtain ⟨rfl, haccepted, hwalk⟩ := locate_eq_ok hfree hlocation
    split at h
    · cases h
    · rename_i hdirectory
      cases h
      have hnot : tree.look (tree.siteOf path) ≠ some .directory := by
        intro hlook
        simp [isDirectoryAt, hlook] at hdirectory
      obtain ⟨hne, hparent⟩ := siteOf_of_namesFile hfile hwalk
      refine ⟨grows_put tree rfl (fun target => by simp [Entry.kind]) hnot, ?_, haccepted, hwalk,
        hnot⟩
      rw [fileAt_eq_some, look_put tree hne hparent hnot rfl, if_pos rfl, Entry.kind]

/-- A file that was created was written when the directories around it had been made. -/
theorem made_of_created {tree after : FileTree} {path : PathName} {content : String}
    (h : tree.createText path content = (after, none)) :
    ∃ made, makeDirectories path.parts.length tree path.parent = (made, none) ∧
      made.writeText path content = .ok after := by
  rw [createText] at h
  split at h
  · cases h
  · rename_i made hmade
    split at h
    · rename_i written hwrite
      cases h
      exact ⟨made, hmade, hwrite⟩
    · cases h

/-- A creation is refused with a directory around the file, or with the file when they are there. -/
theorem made_of_uncreated {tree after : FileTree} {path : PathName} {content : String}
    {refusal : Refusal} (h : tree.createText path content = (after, some refusal)) :
    makeDirectories path.parts.length tree path.parent = (after, some refusal) ∨
      makeDirectories path.parts.length tree path.parent = (after, none) ∧
        after.writeText path content = .error refusal := by
  rw [createText] at h
  split at h
  · rename_i made found hmade
    cases h
    exact .inl hmade
  · rename_i made hmade
    split at h
    · cases h
    · rename_i found hwrite
      cases h
      exact .inr ⟨hmade, hwrite⟩

/-- A file that could be created is at its site, and its path name leads there now. -/
theorem createText_eq_ok {tree after : FileTree} (hfree : tree.LinkFree) {path : PathName}
    (hfile : NamesFile path) {content : String}
    (h : tree.createText path content = (after, none)) :
    Grows [tree.siteOf path] tree after ∧ after.fileAt (tree.siteOf path) = some content.toUTF8 ∧
      Accepted path ∧ after.Walkable (after.startOf path) path.parts ∧
        tree.look (tree.siteOf path) ≠ some .directory := by
  obtain ⟨made, hafter, hwrite⟩ := made_of_created h
  have hmade := grows_makeDirectories path.parts.length tree path.parent
  rw [hafter] at hmade
  obtain ⟨hgrows, hbytes, haccepted, hwalk, hnot⟩ :=
    writeText_eq_ok (hmade.linkFree hfree) hfile hwrite
  have hthrough := hgrows.walkable hwalk
  rw [hmade.siteOf path] at hgrows hbytes hnot
  exact ⟨(hmade.trans hgrows).mono (by simp), hbytes, haccepted, hthrough,
    fun hdirectory => hnot (hmade.directories _ hdirectory)⟩

/-- A refused creation changes no file. -/
theorem createText_refused {tree after : FileTree} {path : PathName} {content : String}
    {refusal : Refusal} (h : tree.createText path content = (after, some refusal)) :
    Grows [] tree after := by
  have hmade := grows_makeDirectories path.parts.length tree path.parent
  rcases made_of_uncreated h with hafter | ⟨hafter, -⟩
  · rwa [hafter] at hmade
  · rwa [hafter] at hmade

/-- Creating a file writes its site at most. -/
theorem grows_createText {tree : FileTree} (hfree : tree.LinkFree) {path : PathName}
    (hfile : NamesFile path) (content : String) :
    Grows [tree.siteOf path] tree (tree.createText path content).1 := by
  rcases hcreate : tree.createText path content with ⟨after, _ | refusal⟩
  · exact (createText_eq_ok hfree hfile hcreate).1
  · exact (createText_refused hcreate).mono (by simp)

end DartLayers.FileTree
