import DartLayers.Proofs.FileTree.Growth
import DartLayers.Proofs.Merge.Cases

/-!
# DartLayers — what the outcome of a merge says about its file

An outcome reports on one file: what was at its site before, and what is there now. In a tree
without links the report is right, with one exception. A path name may lead nowhere although a file
is at its site, because it goes up again from a directory that is missing. Such a file is
*overlooked*: it is replaced without a question, and the outcome is `created`.

* **`Reported`** — what each outcome says.
* **`Overlooked`** — a file that a path name does not lead to, at its site.
* **`mergeText_reported`** — an outcome is right, or the file was overlooked.
* **`not_overlooked_of_walkable`** — below a directory that is there nothing is overlooked.
-/

namespace DartLayers

/-- What an outcome says about the file at a location, in a tree before and in a tree after. -/
inductive Reported (before after : FileTree) (location : Location) (content : String) :
    Outcome → Prop where
  | created (hbefore : before.look location = none)
      (hafter : after.fileAt location = some content.toUTF8) :
      Reported before after location content .created
  | overwritten (bytes : ByteArray) (hbefore : before.fileAt location = some bytes)
      (hother : ¬ Contains bytes content)
      (hafter : after.fileAt location = some content.toUTF8) :
      Reported before after location content .overwritten
  | unchanged (bytes : ByteArray) (hbefore : before.fileAt location = some bytes)
      (hholds : Contains bytes content) (hafter : after.fileAt location = some bytes) :
      Reported before after location content .unchanged
  | skipped (bytes : ByteArray) (hbefore : before.fileAt location = some bytes)
      (hother : ¬ Contains bytes content) (hafter : after.fileAt location = some bytes) :
      Reported before after location content .skipped

/-- A report stays right in trees that agree on its file. -/
theorem Reported.congr {before before' after after' : FileTree} {location : Location}
    {content : String} {outcome : Outcome} (h : Reported before after location content outcome)
    (hnone : before.look location = none → before'.look location = none)
    (hbefore : before'.fileAt location = before.fileAt location)
    (hafter : after'.fileAt location = after.fileAt location) :
    Reported before' after' location content outcome := by
  cases h with
  | created habsent hwritten => exact .created (hnone habsent) (hafter.trans hwritten)
  | overwritten bytes hfound hother hwritten =>
    exact .overwritten bytes (hbefore.trans hfound) hother (hafter.trans hwritten)
  | unchanged bytes hfound hholds hkept =>
    exact .unchanged bytes (hbefore.trans hfound) hholds (hafter.trans hkept)
  | skipped bytes hfound hother hkept =>
    exact .skipped bytes (hbefore.trans hfound) hother (hafter.trans hkept)

/-- Where a file has changed that was there before, the report says that it was overwritten. -/
theorem Reported.overwritten_of_changed {before after : FileTree} {location : Location}
    {content : String} {outcome : Outcome} (h : Reported before after location content outcome)
    {bytes : ByteArray} (hbefore : before.fileAt location = some bytes)
    (hchanged : after.fileAt location ≠ some bytes) : outcome = .overwritten := by
  cases h with
  | created hnone hafter =>
    rw [FileTree.fileAt, hnone] at hbefore
    cases hbefore
  | overwritten => rfl
  | unchanged found hfound hholds hkept =>
    rw [hbefore] at hfound
    exact absurd (hkept.trans hfound.symm) hchanged
  | skipped found hfound hother hkept =>
    rw [hbefore] at hfound
    exact absurd (hkept.trans hfound.symm) hchanged

/-- Whether an outcome says that the file was written. -/
def Outcome.writes : Outcome → Bool
  | .created => true
  | .overwritten => true
  | .unchanged => false
  | .skipped => false

/-- What a file has after an outcome: its content, or the bytes that it had. -/
def Outcome.bytes? (outcome : Outcome) (content : String) (bytes : Option ByteArray) :
    Option ByteArray :=
  if outcome.writes then some content.toUTF8 else bytes

/-- A file has its content after a writing outcome, and is as it was after any other. It is there in
any case. -/
theorem Reported.fileAt_eq {before after : FileTree} {location : Location} {content : String}
    {outcome : Outcome} (h : Reported before after location content outcome) :
    after.fileAt location = outcome.bytes? content (before.fileAt location) ∧
      after.fileAt location ≠ none := by
  cases h with
  | created hnone hafter => exact ⟨hafter, by rw [hafter]; exact Option.some_ne_none _⟩
  | overwritten found hfound hother hafter =>
    exact ⟨hafter, by rw [hafter]; exact Option.some_ne_none _⟩
  | unchanged found hfound hholds hkept =>
    exact ⟨hkept.trans hfound.symm, by rw [hkept]; exact Option.some_ne_none _⟩
  | skipped found hfound hother hkept =>
    exact ⟨hkept.trans hfound.symm, by rw [hkept]; exact Option.some_ne_none _⟩

/-! ## What a path name does not lead to -/

/-- A path name leads nowhere, and yet a file is at its site. -/
def Overlooked (tree : FileTree) (path : PathName) : Prop :=
  tree.isPresent path = .ok false ∧ ∃ bytes, tree.fileAt (tree.siteOf path) = some bytes

namespace FileTree

variable {tree : FileTree}

/-- A path name that is present leads to its site. -/
theorem isPresent_eq_true (hfree : tree.LinkFree) {path : PathName}
    (h : tree.isPresent path = .ok true) :
    ∃ kind, tree.look (tree.siteOf path) = some kind ∧ Accepted path ∧
      tree.Walkable (tree.startOf path) path.parts := by
  rw [isPresent, leadsTo] at h
  split at h
  · rename_i location kind hfound
    obtain ⟨rfl, haccepted, hwalk, hkind⟩ := (find_eq_ok_iff hfree).1 hfound
    exact ⟨kind, hkind, haccepted, hwalk⟩
  · split at h
    · cases h
    · cases h

/-- The bytes that can be read from a path name are those of the file at its site. -/
theorem readBytes_eq_ok (hfree : tree.LinkFree) {path : PathName} {bytes : ByteArray}
    (h : tree.readBytes path = .ok bytes) : tree.fileAt (tree.siteOf path) = some bytes := by
  rw [readBytes] at h
  split at h
  · cases h
  · rename_i location found hfound
    cases h
    obtain ⟨rfl, _, _, hkind⟩ := (find_eq_ok_iff hfree).1 hfound
    exact fileAt_eq_some.2 hkind
  · cases h

/-- Names with something at their end are walked through, or refused for their length. -/
theorem walkTo_of_look (hfree : tree.LinkFree) {purpose : Purpose} (hpurpose : purpose ≠ .newFile)
    {here : Location} {names : List String} (hnames : ∀ name ∈ names, IsName name)
    (h : tree.look (here ++ names) ≠ none) :
    tree.walkTo purpose here names = .ok (.place (here ++ names)) ∨
      tree.walkTo purpose here names = .error .nameTooLong := by
  induction names generalizing here with
  | nil => exact .inl (by simp [walkTo])
  | cons name rest ih =>
    have hname := hnames name List.mem_cons_self
    have hhere := look_eq_directory_of_append (List.cons_ne_nil name rest) h
    have hasks := not_asksDirectory hpurpose rest
    by_cases hlong : maxNameBytes < name.utf8ByteSize
    · exact .inr (walkTo_long hhere hname hasks hlong)
    · rw [walkTo_down hhere hname hasks (Nat.not_lt.1 hlong) (hfree _)]
      have hbehind : tree.look (here ++ [name] ++ rest) ≠ none := by simpa using h
      simpa using ih (fun other hother => hnames other (List.mem_cons_of_mem _ hother)) hbehind

/-- Below a directory that is walked to nothing is overlooked. -/
theorem not_overlooked_of_walkable (hfree : tree.LinkFree) {path : PathName}
    {parts names : List String} (hparts : path.parts = parts ++ names)
    (hnames : ∀ name ∈ names, IsName name) (haccepted : Accepted path)
    (hwalk : tree.Walkable (tree.startOf path) parts) : ¬ Overlooked tree path := by
  rintro ⟨habsent, bytes, hbytes⟩
  have hsite : tree.siteOf path = siteFrom (tree.startOf path) parts ++ names := by
    rw [siteOf, hparts, siteFrom_append, siteFrom_of_names hnames]
  have hlook : tree.look (siteFrom (tree.startOf path) parts ++ names) = some (.file bytes) := by
    rw [← hsite]
    exact fileAt_eq_some.1 hbytes
  have hpurpose : Purpose.target ≠ .newFile := by decide
  have hpass :=
    walkTo_append_of_walkable hfree names (fun _ => not_asksDirectory hpurpose _) hwalk
  rw [isPresent, leadsTo, find, haccepted.locate_eq, hparts] at habsent
  have hthere : tree.look (siteFrom (tree.startOf path) parts ++ names) ≠ none := by simp [hlook]
  rcases walkTo_of_look hfree hpurpose hnames hthere with hplace | hlong
  · rw [walk_of_place (hpass.trans hplace) maxLinks] at habsent
    simp [hlook] at habsent
  · rw [walk, hpass, hlong] at habsent
    simp [meansAbsent] at habsent

/-- A path name that is walked to its end is not overlooked. -/
theorem not_overlooked_of_place (hfree : tree.LinkFree) {path : PathName}
    (haccepted : Accepted path) (hwalk : tree.Walkable (tree.startOf path) path.parts) :
    ¬ Overlooked tree path :=
  not_overlooked_of_walkable hfree (List.append_nil _).symm (by simp) haccepted hwalk

end FileTree

/-! ## One file -/

/-- The policy leaves all files alone. -/
def WritePolicy.KeepsFiles {ε σ : Type} (policy : WritePolicy ε σ) : Prop :=
  ∀ path tree state, (policy.settle path tree state).2.1 = tree

section

variable {ε σ : Type} {policy : WritePolicy ε σ} {tree after : FileTree} {path : PathName}
  {content : String} {state final : σ}

/-- A conflict is settled in the tree in which it was met. -/
theorem WritePolicy.KeepsFiles.left_eq (hkeeps : policy.KeepsFiles) {left : FileTree}
    {answer : Except ε Json} (h : policy.settle path tree state = (answer, left, final)) :
    left = tree := by
  have hleft := hkeeps path tree state
  rw [h] at hleft
  exact hleft

/-- A refusal that is reported is reported with the path of the file. -/
theorem mergeText_refused {refused : PathName} {refusal : Refusal}
    (h : mergeText policy path content tree state =
      (.error (.refused refused refusal), after, final)) : refused = path := by
  rw [mergeText] at h
  split at h
  · -- Each place where a merge can be refused names the path that is merged.
    rename_i stop hencounter
    cases h
    rcases encounter_eq_error hencounter with ⟨other, -, hstop⟩ | ⟨other, -, hstop⟩
    · cases hstop
    · cases hstop
      rfl
  · split at h
    · cases h
    · cases h
    · cases h
      rfl
  · cases h
  · rw [settleConflict] at h
    split at h
    · cases h
    · split at h
      · split at h
        · cases h
        · cases h
          rfl
      · cases h

/-- Merging a file writes its site at most, and no site where it stops. -/
theorem mergeText_grows (hkeeps : policy.KeepsFiles) (hfree : tree.LinkFree)
    (hfile : FileTree.NamesFile path) {result : Except (WriteStop ε) Outcome}
    (h : mergeText policy path content tree state = (result, after, final)) :
    FileTree.Grows (if result.isOk then [tree.siteOf path] else []) tree after := by
  cases mergeText_cases h with
  | stopped | unchanged => exact .refl _ tree
  | created after _ hcreate => exact (FileTree.createText_eq_ok hfree hfile hcreate).1
  | uncreated _ _ _ _ _ hcreate => exact FileTree.createText_refused hcreate
  -- The policy keeps the files, so only a consent writes.
  | failed _ _ _ _ hsettle | skipped _ _ _ _ hsettle | unwritten _ _ _ _ hsettle =>
    obtain rfl := hkeeps.left_eq hsettle
    exact .refl _ after
  | overwritten left _ _ _ hsettle hwrite =>
    obtain rfl := hkeeps.left_eq hsettle
    exact (FileTree.writeText_eq_ok hfree hfile hwrite).1

/-- What can be read from a path name is at its site, and nothing is overlooked. -/
theorem FileTree.site_of_readBytes (hfree : tree.LinkFree) {bytes : ByteArray}
    (hread : tree.readBytes path = .ok bytes) :
    tree.fileAt (tree.siteOf path) = some bytes ∧ ¬ Overlooked tree path ∧
      FileTree.Accepted path ∧ tree.Walkable (tree.startOf path) path.parts := by
  obtain ⟨-, -, haccepted, hwalk⟩ :=
    FileTree.isPresent_eq_true hfree (FileTree.isPresent_of_readBytes hread)
  exact ⟨FileTree.readBytes_eq_ok hfree hread,
    FileTree.not_overlooked_of_place hfree haccepted hwalk, haccepted, hwalk⟩

/-- **The outcome of a merge is right**, unless the file was overlooked; and the path name leads to
its site from then on. -/
theorem mergeText_reported (hkeeps : policy.KeepsFiles) (hfree : tree.LinkFree)
    (hfile : FileTree.NamesFile path) {outcome : Outcome}
    (h : mergeText policy path content tree state = (.ok outcome, after, final)) :
    (¬ Overlooked tree path ∧ Reported tree after (tree.siteOf path) content outcome ∨
        Overlooked tree path ∧ outcome = .created ∧
          after.fileAt (tree.siteOf path) = some content.toUTF8) ∧
      FileTree.Accepted path ∧ after.Walkable (after.startOf path) path.parts := by
  cases mergeText_cases h with
  | created _ habsent hcreate =>
    obtain ⟨-, hbytes, haccepted, hwalk, hnot⟩ := FileTree.createText_eq_ok hfree hfile hcreate
    refine ⟨?_, haccepted, hwalk⟩
    cases hlook : tree.look (tree.siteOf path) with
    | none =>
      refine .inl ⟨fun hover => ?_, .created hlook hbytes⟩
      obtain ⟨bytes, hfound⟩ := hover.2
      rw [FileTree.fileAt_eq_some, hlook] at hfound
      cases hfound
    | some kind =>
      -- Neither a directory nor a link is at the site, so it is a file.
      cases kind with
      | file bytes => exact .inr ⟨⟨habsent, bytes, FileTree.fileAt_eq_some.2 hlook⟩, rfl, hbytes⟩
      | directory => exact absurd hlook hnot
      | link target => exact absurd hlook (hfree _ target)
  | unchanged bytes hread hholds =>
    obtain ⟨hbytes, hlooked, haccepted, hwalk⟩ := FileTree.site_of_readBytes hfree hread
    exact ⟨.inl ⟨hlooked, .unchanged bytes hbytes hholds hbytes⟩, haccepted, hwalk⟩
  | skipped _ _ _ hconflict hsettle =>
    obtain rfl := hkeeps.left_eq hsettle
    obtain ⟨bytes, hread, hother⟩ := hconflict
    obtain ⟨hbytes, hlooked, haccepted, hwalk⟩ := FileTree.site_of_readBytes hfree hread
    exact ⟨.inl ⟨hlooked, .skipped bytes hbytes hother hbytes⟩, haccepted, hwalk⟩
  | overwritten left _ _ hconflict hsettle hwrite =>
    obtain rfl := hkeeps.left_eq hsettle
    obtain ⟨bytes, hread, hother⟩ := hconflict
    obtain ⟨hbytes, hlooked, haccepted, hwalk⟩ := FileTree.site_of_readBytes hfree hread
    obtain ⟨hgrows, hwritten, -⟩ := FileTree.writeText_eq_ok hfree hfile hwrite
    exact ⟨.inl ⟨hlooked, .overwritten bytes hbytes hother hwritten⟩, haccepted,
      hgrows.walkable hwalk⟩

end

end DartLayers
