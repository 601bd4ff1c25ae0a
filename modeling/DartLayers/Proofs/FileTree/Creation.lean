import DartLayers.Proofs.FileTree.Growth
import DartLayers.Proofs.FileTree.Ways

/-!
# DartLayers — where files can be created

A file can be created wherever nothing obstructs it: its path name is one that the system takes, only
directories stand on its way, as far as it is there, and no directory is in its place. What is missing
of the way is made. The file that is created then obstructs those only whose way leads over it.

* **`FileTree.IsOpen`** — a way on which there are only directories.
* **`FileTree.makeDirectories_of_isOpen`** — such a way can be made.
* **`FileTree.Unobstructed`**, **`FileTree.Unobstructed.exists_createText`** — files that can be created.
* **`FileTree.Unobstructed.of_grows`** — they obstruct each other only on their ways.
-/

namespace DartLayers.FileTree

variable {tree : FileTree} {path : PathName} {here : Location} {parts : List String}

/-! ## Open ways -/

/-- The parts are names, none of them too long. -/
def AreNames (parts : List String) : Prop :=
  ∀ part ∈ parts, IsName part ∧ part.utf8ByteSize ≤ maxNameBytes

instance (parts : List String) : Decidable (AreNames parts) :=
  inferInstanceAs (Decidable (∀ part ∈ parts, _))

/-- What stands on the way over some parts, and at its end, is a directory. -/
def IsOpen (tree : FileTree) (here : Location) (parts : List String) : Prop :=
  ∀ front, front <+: parts → ∀ kind, tree.look (here ++ front) = some kind → kind = .directory

theorem IsOpen.of_prefix (h : tree.IsOpen here parts) {front : List String}
    (hfront : front <+: parts) : tree.IsOpen here front :=
  fun others hothers => h others (hothers.trans hfront)

theorem IsOpen.step {part : String} {rest : List String} (h : tree.IsOpen here (part :: rest)) :
    tree.IsOpen (here ++ [part]) rest := by
  intro front hfront kind hkind
  refine h (part :: front) (List.cons_prefix_cons.2 ⟨rfl, hfront⟩) kind ?_
  simpa using hkind

/-- A way to a directory is open. -/
theorem isOpen_of_look (h : tree.look (here ++ parts) = some .directory) :
    tree.IsOpen here parts := by
  rintro front ⟨rest, rfl⟩ kind hkind
  cases rest with
  | nil =>
    rw [List.append_nil, hkind] at h
    exact Option.some.inj h
  | cons part rest =>
    rw [← List.append_assoc] at h
    have hthere : tree.look (here ++ front ++ part :: rest) ≠ none := by
      rw [h]
      exact Option.some_ne_none _
    have hfront := look_eq_directory_of_append (List.cons_ne_nil part rest) hthere
    exact Option.some.inj (hkind.symm.trans hfront)

/-- **A walk over an open way** to a name comes through if the way is there, and else ends where it is
missing. -/
theorem walkTo_of_isOpen (hfree : tree.LinkFree) (purpose : Purpose) {front : List String}
    {name : String} (hnames : AreNames (front ++ [name])) (hopen : tree.IsOpen here front) :
    tree.walkTo purpose here (front ++ [name]) =
      if tree.look (here ++ front) = none then .error .noEntry
      else .ok (.place (here ++ front ++ [name])) := by
  induction front generalizing here with
  | nil =>
    obtain ⟨hname, hshort⟩ := hnames name (by simp)
    rw [List.nil_append, List.append_nil]
    cases hhere : tree.look here with
    | none => rw [walkTo_noEntry hhere, if_pos rfl]
    | some kind =>
      obtain rfl := hopen [] List.nil_prefix kind (by simpa using hhere)
      rw [walkTo_down hhere hname not_asksDirectory_nil hshort (hfree _), walkTo,
        if_neg (Option.some_ne_none _)]
  | cons part rest ih =>
    obtain ⟨hname, hshort⟩ := hnames part (by simp)
    have hrest := ih (fun other hother => hnames other (by simp_all)) hopen.step
    rw [List.cons_append]
    cases hhere : tree.look here with
    | none =>
      rw [walkTo_noEntry hhere,
        if_pos (look_append_eq_none (List.cons_ne_nil part rest) (by simp [hhere]))]
    | some kind =>
      obtain rfl := hopen [] List.nil_prefix kind (by simpa using hhere)
      -- The way ends with a name, so it asks for no directory.
      rw [walkTo_down hhere hname (not_asksDirectory_concat (hnames name (by simp)).1 rest) hshort
        (hfree _), hrest]
      simp

theorem walk_of_walkTo_error {purpose : Purpose} {refusal : Refusal}
    (h : tree.walkTo purpose here parts = .error refusal) (links : Nat) :
    tree.walk purpose links here parts = .error refusal := by
  cases links <;> rw [walk, h]

/-- Where the way to a name is open, a path name leads to the name, or nowhere. -/
theorem locate_of_isOpen (hfree : tree.LinkFree) (purpose : Purpose) {front : List String}
    {name : String} (haccepted : Accepted path) (hparts : path.parts = front ++ [name])
    (hnames : AreNames path.parts) (hopen : tree.IsOpen (tree.startOf path) front) :
    tree.locate purpose path =
      if tree.look (tree.startOf path ++ front) = none then .error .noEntry
      else .ok (tree.startOf path ++ path.parts) := by
  have hwalk := walkTo_of_isOpen hfree purpose (hparts ▸ hnames) hopen
  rw [haccepted.locate_eq, hparts]
  by_cases hmissing : tree.look (tree.startOf path ++ front) = none
  · rw [if_pos hmissing] at hwalk ⊢
    exact walk_of_walkTo_error hwalk maxLinks
  · rw [if_neg hmissing] at hwalk ⊢
    rw [walk_of_place hwalk maxLinks, List.append_assoc]

/-- A directory at the end of a way is found there. -/
theorem locate_of_directory (hfree : tree.LinkFree) (purpose : Purpose) (haccepted : Accepted path)
    (hnames : AreNames path.parts)
    (hlook : tree.look (tree.startOf path ++ path.parts) = some .directory) :
    tree.locate purpose path = .ok (tree.startOf path ++ path.parts) := by
  rcases List.eq_nil_or_concat path.parts with hnil | ⟨front, name, hparts⟩
  · rw [haccepted.locate_eq, hnil, List.append_nil]
    exact walk_of_place (by rw [walkTo]) maxLinks
  · rw [List.concat_eq_append] at hparts
    have hfront : tree.look (tree.startOf path ++ front) = some .directory := by
      refine look_eq_directory_of_append (List.cons_ne_nil name []) ?_
      rw [List.append_assoc, ← hparts, hlook]
      exact Option.some_ne_none _
    rw [locate_of_isOpen hfree purpose haccepted hparts hnames (isOpen_of_look hfront),
      if_neg (by simp [hfront])]

/-! ## Directories -/

/-- The path name of a directory is taken where that of a file in it is. -/
theorem Accepted.parent (h : Accepted path) : Accepted path.parent := by
  refine ⟨?_, ?_⟩
  · cases hnull : path.parent.hasNull with
    | false => rfl
    | true =>
      have hhas := parent_hasNull hnull
      rw [h.1] at hhas
      cases hhas
  · -- Without its last part and the slash before it a path name is shorter, unless it has no part.
    rcases List.eq_nil_or_concat path.parts with hnil | ⟨front, name, hparts⟩
    · have hsame : path.parent = path := by rw [PathName.parent, hnil, List.dropLast_nil, ← hnil]
      rw [hsame]
      exact h.2
    · rw [List.concat_eq_append] at hparts
      have hparent : path.parent = ⟨path.root, front⟩ := by
        rw [PathName.parent, hparts, List.dropLast_concat]
      have hlong := h.2
      rw [PathName.text, hparts] at hlong
      simp only [List.isEmpty_iff, List.append_eq_nil_iff, List.cons_ne_nil, and_false,
        Bool.and_eq_true, decide_eq_true_eq, if_false, String.utf8ByteSize_append] at hlong
      rw [hparent, PathName.text]
      split
      · decide
      · rw [String.utf8ByteSize_append]
        cases front with
        | nil => exact Nat.le_trans (by simp) (Nat.le_of_add_right_le hlong)
        | cons first rest =>
          rw [String.intercalate_append_of_ne_nil (List.cons_ne_nil first rest)
            (List.cons_ne_nil name []), String.utf8ByteSize_append, String.utf8ByteSize_append]
            at hlong
          dsimp only
          omega

theorem AreNames.of_append {others : List String} (h : AreNames (parts ++ others)) :
    AreNames parts :=
  fun part hpart => h part (List.mem_append_left _ hpart)

/-- A directory that is there, or that is missing in one that is there, is ensured. -/
theorem exists_ensureDirectory (hfree : tree.LinkFree) (haccepted : Accepted path)
    (hnames : AreNames path.parts)
    (hlocate : tree.locate .entry path = .ok (tree.startOf path ++ path.parts))
    (hlook : tree.look (tree.startOf path ++ path.parts) = some .directory ∨
      tree.look (tree.startOf path ++ path.parts) = none ∧
        tree.look (tree.startOf path ++ path.parts).dropLast = some .directory) :
    ∃ made, tree.ensureDirectory path = (made, none) ∧
      made.look (tree.startOf path ++ path.parts) = some .directory := by
  rw [ensureDirectory, makeDirectory, hlocate]
  rcases hlook with hthere | ⟨hmissing, hparent⟩
  · have hfind : tree.find path = .ok (tree.startOf path ++ path.parts, .directory) :=
      find_of_locate (locate_of_directory hfree .target haccepted hnames hthere) hthere
    refine ⟨tree, ?_, hthere⟩
    simp only [hthere, unlessDirectory, isDirectory, leadsTo, hfind]
  · refine ⟨tree.put (tree.startOf path ++ path.parts) (.directory []), by simp only [hmissing], ?_⟩
    have hne : tree.startOf path ++ path.parts ≠ [] := fun hnil => by
      rw [hnil] at hmissing
      cases hmissing
    rw [look_put_self tree hne hparent]
    rfl

/-- A directory is ensured in one that is there, unless a file has its name. -/
theorem exists_ensureDirectory_below (hfree : tree.LinkFree) (haccepted : Accepted path)
    {front : List String} {name : String} (hparts : path.parts = front ++ [name])
    (hnames : AreNames path.parts)
    (hfront : tree.look (tree.startOf path ++ front) = some .directory)
    (hfile : tree.fileAt (tree.startOf path ++ path.parts) = none) :
    tree.locate .entry path = .ok (tree.startOf path ++ path.parts) ∧
      ∃ made, tree.ensureDirectory path = (made, none) ∧
        made.look (tree.startOf path ++ path.parts) = some .directory := by
  have hlocate := locate_of_isOpen hfree .entry haccepted hparts hnames (isOpen_of_look hfront)
  rw [if_neg (by simp [hfront])] at hlocate
  refine ⟨hlocate, exists_ensureDirectory hfree haccepted hnames hlocate ?_⟩
  cases hkind : tree.look (tree.startOf path ++ path.parts) with
  | none => exact .inr ⟨rfl, by rw [hparts, ← List.append_assoc, List.dropLast_concat, hfront]⟩
  | some kind =>
    cases kind with
    | directory => exact .inl rfl
    | link target => exact absurd hkind (hfree _ target)
    | file bytes =>
      rw [fileAt_eq_some.2 hkind] at hfile
      cases hfile

theorem makeDirectory_ne_noEntry {location : Location}
    (hlocate : tree.locate .entry path = .ok location) :
    tree.makeDirectory path ≠ .error .noEntry := by
  rw [makeDirectory, hlocate]
  dsimp only
  split <;> simp

theorem makeDirectories_of_locate {location : Location}
    (hlocate : tree.locate .entry path = .ok location) (depth : Nat) :
    makeDirectories depth tree path = tree.ensureDirectory path := by
  cases depth with
  | zero => rfl
  | succ depth =>
    rw [makeDirectories]
    split
    · rename_i hmissing
      exact absurd hmissing (makeDirectory_ne_noEntry hlocate)
    · rfl

theorem makeDirectories_of_missing {made : FileTree} {location : Location} {depth : Nat}
    (hmissing : tree.locate .entry path = .error .noEntry)
    (hmade : makeDirectories depth tree path.parent = (made, none))
    (hlocate : made.locate .entry path = .ok location) :
    makeDirectories (depth + 1) tree path = made.ensureDirectory path := by
  have hmake : tree.makeDirectory path = .error .noEntry := by rw [makeDirectory, hmissing]
  rw [makeDirectories, hmake]
  simp only [hmade]
  split
  · rename_i hagain
    exact absurd hagain (makeDirectory_ne_noEntry hlocate)
  · rfl

/-- **An open way can be made**, as far as it is missing. -/
theorem makeDirectories_of_isOpen (hfree : tree.LinkFree) (depth : Nat) (path : PathName)
    (hstart : tree.look (tree.startOf path) = some .directory) (haccepted : Accepted path)
    (hnames : AreNames path.parts) (hopen : tree.IsOpen (tree.startOf path) path.parts)
    (hdepth : path.parts.length ≤ depth) :
    ∃ made, makeDirectories depth tree path = (made, none) ∧
      made.look (tree.startOf path ++ path.parts) = some .directory := by
  induction depth generalizing path with
  | zero =>
    have hnil : path.parts = [] := List.length_eq_zero_iff.1 (Nat.le_zero.1 hdepth)
    have hthere : tree.look (tree.startOf path ++ path.parts) = some .directory := by
      rw [hnil, List.append_nil, hstart]
    exact exists_ensureDirectory hfree haccepted hnames
      (locate_of_directory hfree .entry haccepted hnames hthere) (.inl hthere)
  | succ depth ih =>
    cases hlook : tree.look (tree.startOf path ++ path.parts) with
    | some kind =>
      obtain rfl := hopen path.parts List.prefix_rfl kind hlook
      have hlocate := locate_of_directory hfree .entry haccepted hnames hlook
      rw [makeDirectories_of_locate hlocate]
      exact exists_ensureDirectory hfree haccepted hnames hlocate (.inl hlook)
    | none =>
      have hne : path.parts ≠ [] := fun hnil => by
        rw [hnil, List.append_nil, hstart] at hlook
        cases hlook
      obtain ⟨front, name, hparts⟩ : ∃ front name, path.parts = front ++ [name] :=
        ⟨_, _, (List.dropLast_concat_getLast hne).symm⟩
      have hway : tree.IsOpen (tree.startOf path) front :=
        hopen.of_prefix (hparts ▸ List.prefix_append front [name])
      have hfile : tree.fileAt (tree.startOf path ++ path.parts) = none := by rw [fileAt, hlook]
      cases hfront : tree.look (tree.startOf path ++ front) with
      | some kind =>
        obtain rfl := hway front List.prefix_rfl kind hfront
        obtain ⟨hlocate, hensured⟩ :=
          exists_ensureDirectory_below hfree haccepted hparts hnames hfront hfile
        rwa [makeDirectories_of_locate hlocate]
      | none =>
        -- the directory around it is made first
        have hmissing := locate_of_isOpen hfree .entry haccepted hparts hnames hway
        rw [if_pos hfront] at hmissing
        have hparent : path.parent.parts = front := by
          rw [PathName.parent, hparts, List.dropLast_concat]
        obtain ⟨made, hmade, hthere⟩ := ih path.parent hstart haccepted.parent
          (by rw [hparent]; exact (hparts ▸ hnames : AreNames (front ++ [name])).of_append)
          (by rw [hparent]; exact hway)
          (by rw [hparent]; rw [hparts, List.length_append] at hdepth; simpa using hdepth)
        have hgrows : Grows [] tree made := by
          have hall := grows_makeDirectories depth tree path.parent
          rwa [hmade] at hall
        have hhome : made.startOf path = tree.startOf path := startOf_of_home hgrows.home path
        obtain ⟨hlocate, hensured⟩ := exists_ensureDirectory_below (hgrows.linkFree hfree)
          haccepted hparts hnames
          (by rw [hhome, ← hparent]; exact hthere)
          (by rw [hhome, hgrows.files _ List.not_mem_nil, hfile])
        rw [makeDirectories_of_missing hmissing hmade hlocate]
        rwa [hhome] at hensured

/-! ## New directories -/

/-- Every directory that is there afterwards was there before, or is on the way to one of the sites. -/
def MakesWays (sites : List Location) (before after : FileTree) : Prop :=
  ∀ location, after.look location = some .directory → before.look location = some .directory ∨
    ∃ site ∈ sites, location <+: site.dropLast

namespace MakesWays

variable {sites others : List Location} {before middle after : FileTree}

theorem refl (sites : List Location) (tree : FileTree) : MakesWays sites tree tree :=
  fun _ h => .inl h

theorem trans (h₁ : MakesWays sites before middle) (h₂ : MakesWays others middle after) :
    MakesWays (sites ++ others) before after := by
  intro location h
  rcases h₂ location h with hmiddle | ⟨site, hsite, hway⟩
  · refine (h₁ location hmiddle).imp_right fun ⟨site, hsite, hway⟩ => ?_
    exact ⟨site, List.mem_append_left _ hsite, hway⟩
  · exact .inr ⟨site, List.mem_append_right _ hsite, hway⟩

theorem mono (h : MakesWays sites before after) (hsub : sites ⊆ others) :
    MakesWays others before after :=
  fun location hlook => (h location hlook).imp_right fun ⟨site, hsite, hway⟩ =>
    ⟨site, hsub hsite, hway⟩

end MakesWays

/-- Writing a file makes no directory. -/
theorem makesWays_writeText {after : FileTree} (hne : path.parts ≠ []) {text : String}
    (h : tree.writeText path text = .ok after) (sites : List Location) :
    MakesWays sites tree after := by
  obtain ⟨location, hwrote⟩ := wrote_of_writeText (starts_of_parts hne) h
  intro other hother
  by_cases hsame : other = location
  · rw [hsame, (locate_of_find hwrote.found).2] at hother
    cases hother
  · exact .inl ((hwrote.others other hsame).symm.trans hother)

/-- The directories that are made for a file are on the way to it. -/
theorem makesWays_makeDirectories (hfree : tree.LinkFree)
    (hhome : tree.look tree.home = some .directory) (hnames : ∀ part ∈ path.parts, IsName part)
    (hne : path.parts ≠ []) (depth : Nat) :
    MakesWays [tree.siteOf path] tree (makeDirectories depth tree path.parent).1 := by
  have hmade := made_makeDirectories depth hhome path.parent
  have hgrows := grows_makeDirectories depth tree path.parent
  intro location hlook
  rcases hmade.made location with hsame | ⟨-, parts, hparts, hfind⟩
  · exact .inl (hsame.symm.trans hlook)
  · have hfront : parts <+: path.parts.dropLast := hparts
    obtain ⟨hsite, -⟩ := (find_eq_ok_iff (hgrows.linkFree hfree)).1 hfind
    have hinner : ∀ part ∈ parts, IsName part := fun part hpart =>
      hnames part (List.dropLast_subset _ (hfront.subset hpart))
    rw [hgrows.siteOf, siteOf, siteFrom_of_names hinner] at hsite
    refine .inr ⟨_, List.mem_singleton_self _, ?_⟩
    rw [hsite, siteOf, siteFrom_of_names hnames]
    rw [List.dropLast_append_of_ne_nil hne]
    exact (List.prefix_append_right_inj _).2 hfront

/-! ## Files -/

/-- Nothing obstructs a file: the system takes its path name, which ends with a name, there are only
directories on its way, as far as it is there, and no directory is in its place. -/
structure Unobstructed (tree : FileTree) (path : PathName) : Prop where
  home : tree.look tree.home = some .directory
  accepted : Accepted path
  names : AreNames path.parts
  nonempty : path.parts ≠ []
  way : tree.IsOpen (tree.startOf path) path.parts.dropLast
  place : tree.look (tree.startOf path ++ path.parts) ≠ some .directory

namespace Unobstructed

/-- Nothing obstructs a file whose way is missing from its first part on. -/
theorem of_missing (hhome : tree.look tree.home = some .directory) (haccepted : Accepted path)
    (hnames : AreNames path.parts) {first : String} {rest : List String}
    (hparts : path.parts = first :: rest)
    (hmissing : tree.look (tree.startOf path ++ [first]) = none) : tree.Unobstructed path := by
  have hbelow : ∀ others, tree.look (tree.startOf path ++ first :: others) = none := by
    intro others
    cases others with
    | nil => exact hmissing
    | cons next others =>
      rw [List.append_cons]
      exact look_append_eq_none (List.cons_ne_nil next others) (by simp [hmissing])
  refine ⟨hhome, haccepted, hnames, hparts ▸ List.cons_ne_nil first rest, ?_, ?_⟩
  · intro front hfront kind hkind
    cases front with
    | nil =>
      rw [List.append_nil, look_startOf hhome] at hkind
      exact (Option.some.inj hkind).symm
    | cons other others =>
      rw [hparts] at hfront
      obtain rfl := (List.cons_prefix_cons.1 (hfront.trans (List.dropLast_prefix _))).1
      rw [hbelow others] at hkind
      cases hkind
  · rw [hparts, hbelow rest]
    simp

theorem isName (h : tree.Unobstructed path) : ∀ part ∈ path.parts, IsName part :=
  fun part hpart => (h.names part hpart).1

theorem exists_parts (h : tree.Unobstructed path) :
    ∃ front name, path.parts = front ++ [name] ∧ tree.IsOpen (tree.startOf path) front ∧
      IsName name :=
  ⟨path.parts.dropLast, path.parts.getLast h.nonempty,
    (List.dropLast_concat_getLast h.nonempty).symm, h.way,
    h.isName _ (List.getLast_mem h.nonempty)⟩

theorem namesFile (h : tree.Unobstructed path) : NamesFile path := by
  obtain ⟨front, name, hparts, -, hname⟩ := h.exists_parts
  exact ⟨front, name, hparts, hname⟩

theorem siteOf_eq (h : tree.Unobstructed path) :
    tree.siteOf path = tree.startOf path ++ path.parts :=
  siteFrom_of_names h.isName _

/-- A file that is not there leads nowhere. -/
theorem isPresent_of_none (hfree : tree.LinkFree) (h : tree.Unobstructed path)
    (hnone : tree.look (tree.siteOf path) = none) : tree.isPresent path = .ok false := by
  obtain ⟨front, name, hparts, hopen, -⟩ := h.exists_parts
  have hlocate := locate_of_isOpen hfree .target h.accepted hparts h.names hopen
  rw [h.siteOf_eq] at hnone
  have hfind : tree.find path = .error .noEntry := by
    rw [find, hlocate]
    split
    · rename_i refusal hmissing
      split at hmissing
      · cases hmissing
        rfl
      · cases hmissing
    · rename_i location hplace
      split at hplace
      · cases hplace
      · cases hplace
        rw [hnone]
  rw [isPresent, leadsTo, hfind]
  rfl

/-- A file that is there can be read. -/
theorem exists_readBytes (hfree : tree.LinkFree) (h : tree.Unobstructed path) {kind : Kind}
    (hkind : tree.look (tree.siteOf path) = some kind) :
    tree.isPresent path = .ok true ∧ ∃ bytes, tree.readBytes path = .ok bytes := by
  obtain ⟨front, name, hparts, hopen, -⟩ := h.exists_parts
  rw [h.siteOf_eq] at hkind
  have hfront : tree.look (tree.startOf path ++ front) = some .directory := by
    refine look_eq_directory_of_append (List.cons_ne_nil name []) ?_
    rw [List.append_assoc, ← hparts, hkind]
    exact Option.some_ne_none _
  have hlocate := locate_of_isOpen hfree .target h.accepted hparts h.names hopen
  rw [if_neg (by simp [hfront])] at hlocate
  have hfind := find_of_locate hlocate hkind
  cases kind with
  | directory => exact absurd hkind h.place
  | link target => exact absurd hkind (hfree _ target)
  | file bytes => exact ⟨by rw [isPresent, leadsTo, hfind], bytes, by rw [readBytes, hfind]⟩

/-- **A file that nothing obstructs can be created**, with the directories around it. -/
theorem exists_createText (hfree : tree.LinkFree) (h : tree.Unobstructed path) (content : String) :
    ∃ after, tree.createText path content = (after, none) := by
  obtain ⟨front, name, hparts, hopen, hname⟩ := h.exists_parts
  have hparent : path.parent.parts = front := by rw [PathName.parent, hparts, List.dropLast_concat]
  obtain ⟨made, hmade, hthere⟩ := makeDirectories_of_isOpen hfree path.parts.length
    path.parent (look_startOf h.home path) h.accepted.parent
    (by rw [hparent]; exact (hparts ▸ h.names : AreNames (front ++ [name])).of_append)
    (by rw [hparent]; exact hopen) (by rw [hparent, hparts]; simp)
  have hgrows := grows_makeDirectories path.parts.length tree path.parent
  have hways := makesWays_makeDirectories hfree h.home h.isName h.nonempty path.parts.length
  rw [hmade] at hgrows hways
  have hstart : made.startOf path = tree.startOf path := startOf_of_home hgrows.home path
  have hfront : made.look (made.startOf path ++ front) = some .directory := by
    rw [hstart, ← hparent]
    exact hthere
  have hlocate := locate_of_isOpen (hgrows.linkFree hfree) .newFile h.accepted hparts h.names
    (isOpen_of_look hfront)
  rw [if_neg (by simp [hfront]), hstart, ← h.siteOf_eq] at hlocate
  -- the directories that were made end before the file
  have hplace : made.look (tree.siteOf path) ≠ some .directory := by
    intro hdirectory
    rcases hways _ hdirectory with hbefore | ⟨site, hsite, hway⟩
    · exact h.place (h.siteOf_eq ▸ hbefore)
    · rw [List.mem_singleton.1 hsite, h.siteOf_eq, hparts, ← List.append_assoc,
        List.dropLast_concat] at hway
      exact absurd hway.length_le (by simp)
  refine ⟨made.put (tree.siteOf path) (.file content.toUTF8), ?_⟩
  have hwrite : made.writeText path content =
      .ok (made.put (tree.siteOf path) (.file content.toUTF8)) := by
    rw [writeText, writeBytes, hlocate]
    simp [isDirectoryAt]
  rw [createText, hmade]
  simp only [hwrite]

/-- The directories that a created file brings along are on the way to it. -/
theorem makesWays_createText (hfree : tree.LinkFree) (h : tree.Unobstructed path)
    (content : String) : MakesWays [tree.siteOf path] tree (tree.createText path content).1 := by
  have hways := makesWays_makeDirectories hfree h.home h.isName h.nonempty path.parts.length
  rw [createText]
  split
  · rename_i made refusal hmade
    rwa [hmade] at hways
  · rename_i made hmade
    rw [hmade] at hways
    split
    · rename_i after hwrite
      exact (hways.trans (makesWays_writeText h.nonempty hwrite [])).mono (by simp)
    · exact hways

/-- **Files obstruct each other only if one stands on the way to the other**: however a tree has
grown, a file is unobstructed still unless a site is on its way, or it is on the way to a site. -/
theorem of_grows {sites : List Location} {before after : FileTree} (hfree : before.LinkFree)
    (hgrows : Grows sites before after) (hways : MakesWays sites before after)
    (h : before.Unobstructed path)
    (hbelow : ∀ site ∈ sites, ¬ site <+: (before.siteOf path).dropLast)
    (habove : ∀ site ∈ sites, ¬ before.siteOf path <+: site.dropLast) :
    after.Unobstructed path := by
  have hstart : after.startOf path = before.startOf path := startOf_of_home hgrows.home path
  have hdrop : (before.siteOf path).dropLast = before.startOf path ++ path.parts.dropLast := by
    rw [h.siteOf_eq, List.dropLast_append_of_ne_nil h.nonempty]
  refine ⟨?_, h.accepted, h.names, h.nonempty, ?_, ?_⟩
  · rw [hgrows.home]
    exact hgrows.directories _ h.home
  · rw [hstart]
    intro front hfront kind hkind
    have hway : before.startOf path ++ front <+: (before.siteOf path).dropLast :=
      hdrop ▸ (List.prefix_append_right_inj _).2 hfront
    cases kind with
    | directory => rfl
    | link target => exact absurd hkind (hgrows.linkFree hfree _ target)
    | file bytes =>
      -- the file is not new, as no site is here, but then it was in the way before
      have hfile := hgrows.files _ fun hsite => hbelow _ hsite hway
      rw [fileAt_eq_some.2 hkind] at hfile
      exact h.way front hfront _ (fileAt_eq_some.1 hfile.symm)
  · rw [hstart, ← h.siteOf_eq]
    intro hdirectory
    rcases hways _ hdirectory with hbefore | ⟨site, hsite, hway⟩
    · exact h.place (h.siteOf_eq ▸ hbefore)
    · exact habove site hsite hway

end Unobstructed

end DartLayers.FileTree
