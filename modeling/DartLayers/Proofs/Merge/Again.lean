import DartLayers.Proofs.Merge.Loss
import DartLayers.Proofs.Merge.Series

/-!
# DartLayers — merging a content again

What was just written is there to be read, so a second merge should find it and do nothing. It reads
with universal line breaks, though, and what was written has its own. A content with a carriage return
is therefore never found again, and its file is a conflict from the moment that it is written.

* **`notMem_normalizeBreaks`** — no carriage return is ever read.
* **`contains_toUTF8_iff`** — a content is found in its own bytes exactly if it has none.
* **`readBytes_of_writes`** — after a writing outcome the path name leads to the content.
* **`writeMerged_again_iff`** — a second merge does nothing exactly for such a content.
* **`Settled`**, **`writeAllMerged_settled`** — what several merges leave behind, in a tree without
  links.
-/

namespace DartLayers

/-! ## What is read of what was written -/

/-- No carriage return is ever read. -/
theorem notMem_normalizeBreaks (text : List Char) : '\r' ∉ Text.normalizeBreaks text := by
  fun_induction Text.normalizeBreaks text with
  | case1 => simp
  | case2 rest ih => simp [ih]
  | case3 c rest hnot ih =>
    rw [List.mem_cons, not_or]
    refine ⟨?_, ih⟩
    split
    · decide
    · rename_i hc
      exact Ne.symm hc

/-- A text without a carriage return is read as it was written. -/
theorem normalizeBreaks_of_notMem {text : List Char} (h : '\r' ∉ text) :
    Text.normalizeBreaks text = text := by
  fun_induction Text.normalizeBreaks text with
  | case1 => rfl
  | case2 rest ih => simp at h
  | case3 c rest hnot ih =>
    rw [List.mem_cons, not_or] at h
    rw [if_neg (Ne.symm h.1), ih h.2]

theorem decodeText_toUTF8 (content : String) :
    decodeText content.toUTF8 =
      .ok (String.ofList (Text.normalizeBreaks content.toList)) := by
  have hread : String.fromUTF8? content.toUTF8 = some content := by
    simp only [String.fromUTF8?, String.toUTF8_eq_toByteArray, dif_pos content.isValidUTF8]
    rfl
  rw [decodeText, hread]

/-- **A content is found in its own bytes** exactly if it has no carriage return. -/
theorem contains_toUTF8_iff {content : String} :
    Contains content.toUTF8 content ↔ '\r' ∉ content.toList := by
  rw [Contains, decodeText_toUTF8]
  constructor
  · rintro ⟨text, htext, hinfix⟩ hmem
    cases htext
    rw [String.toList_ofList] at hinfix
    exact notMem_normalizeBreaks _ (List.IsInfix.subset hinfix hmem)
  · intro h
    have htext : (String.ofList (Text.normalizeBreaks content.toList)).toList = content.toList := by
      rw [String.toList_ofList, normalizeBreaks_of_notMem h]
    exact ⟨_, rfl, htext.symm ▸ List.infix_rfl⟩

/-! ## The second merge -/

section

variable {ε σ : Type} {policy : WritePolicy ε σ} {path : PathName} {content : String}
  {tree after : FileTree} {state final : σ} {outcome : Outcome}

/-- After a writing outcome the path name leads to the content. -/
theorem readBytes_of_writes (hhome : tree.look tree.home = some .directory)
    (hwrites : outcome.writes = true)
    (h : writeMerged policy path content tree state = (.ok outcome, after, final)) :
    after.readBytes path = .ok content.toUTF8 := by
  obtain ⟨settled, hmerging⟩ := writeMerged_cases h
  cases hmerging with
  | created _ habsent hcreate =>
    obtain ⟨made, hmade, hwrite⟩ := FileTree.made_of_created hcreate
    have hmakes := FileTree.made_makeDirectories path.parts.length hhome path.parent
    rw [hmade] at hmakes
    have hmadeHome : made.look made.home = some .directory := by
      rw [hmakes.keeps.home]
      exact hmakes.keeps.directories _ hhome
    obtain ⟨location, hwrote⟩ :=
      FileTree.wrote_of_writeText (FileTree.starts_of_home hmadeHome path) hwrite
    exact FileTree.readBytes_iff.2 ⟨location, hwrote.found⟩
  | unchanged => cases hwrites
  | skipped => cases hwrites
  | overwritten left _ _ hconflict hsettle hwrite =>
    have hstart : left.Starts path := FileTree.starts_of_parts (hconflict.parts_ne_nil hhome)
    obtain ⟨location, hwrote⟩ := FileTree.wrote_of_writeText hstart hwrite
    exact FileTree.readBytes_iff.2 ⟨location, hwrote.found⟩

/-- A file that holds the content is left alone. -/
theorem writeMerged_of_contains {bytes : ByteArray} (hread : tree.readBytes path = .ok bytes)
    (hholds : Contains bytes content) :
    writeMerged policy path content tree state =
      (.ok .unchanged, tree, policy.announce .unchanged path state) := by
  rw [writeMerged, mergeText, encounter, FileTree.isPresent_of_readBytes hread]
  simp [hread, holdsContent_iff.2 hholds]

/-- **A second merge does nothing**, and asks nothing, exactly if the content has no carriage
return. -/
theorem writeMerged_again_iff (hhome : tree.look tree.home = some .directory)
    (hwrites : outcome.writes = true)
    (h : writeMerged policy path content tree state = (.ok outcome, after, final)) :
    (writeMerged policy path content after final =
        (.ok .unchanged, after, policy.announce .unchanged path final) ∧
      questions policy path content after final = []) ↔ '\r' ∉ content.toList := by
  have hread := readBytes_of_writes hhome hwrites h
  rw [← contains_toUTF8_iff]
  constructor
  · rintro ⟨-, hquestions⟩
    refine Classical.byContradiction fun hother => ?_
    rw [questions_of_conflicts ⟨_, hread, hother⟩] at hquestions
    cases hquestions
  · intro hholds
    refine ⟨writeMerged_of_contains hread hholds, questions_of_not_conflicts ?_⟩
    rintro ⟨bytes, hbytes, hother⟩
    rw [hread] at hbytes
    cases hbytes
    exact hother hholds

end

/-- A line of text is found again. -/
theorem line_found_again :
    (writeMerged (.always (.bool false)) (.ofString "note") "line\n" {} ()).1 = .ok .created ∧
      let after := (writeMerged (.always (.bool false)) (.ofString "note") "line\n" {} ()).2.1
      writeMerged (.always (.bool false)) (.ofString "note") "line\n" after () =
          (.ok .unchanged, after, ()) ∧
        questions (.always (.bool false)) (.ofString "note") "line\n" after () = [] := by
  have hrun : writeMerged (.always (.bool false)) (.ofString "note") "line\n" {} () =
      (.ok .created,
        (writeMerged (.always (.bool false)) (.ofString "note") "line\n" {} ()).2.1, ()) := by rfl
  have hhome : FileTree.look {} (FileTree.home {}) = some .directory := rfl
  exact ⟨by rw [hrun], (writeMerged_again_iff hhome rfl hrun).2 (by decide)⟩

/-- A line that ends with a carriage return is in conflict with itself. -/
theorem return_not_found_again :
    (writeMerged (.always (.bool false)) (.ofString "note") "line\r" {} ()).1 = .ok .created ∧
      let after := (writeMerged (.always (.bool false)) (.ofString "note") "line\r" {} ()).2.1
      (writeMerged (.always (.bool false)) (.ofString "note") "line\r" after ()).1 =
          .ok .skipped ∧
        questions (.always (.bool false)) (.ofString "note") "line\r" after () =
          [.ofString "note"] :=
  ⟨rfl, rfl, rfl⟩

/-! ## What several merges leave behind -/

/-- A path name leads to a file that is as an outcome says. -/
def Settled (tree : FileTree) (path : PathName) (content : String) (outcome : Outcome) : Prop :=
  ∃ bytes, tree.readBytes path = .ok bytes ∧
    match outcome with
    | .created => bytes = content.toUTF8
    | .overwritten => bytes = content.toUTF8
    | .unchanged => Contains bytes content
    | .skipped => ¬ Contains bytes content

namespace FileTree

variable {tree before after : FileTree} {path : PathName} {bytes : ByteArray}

/-- Without links a file that can be read is at its site. -/
theorem readBytes_eq_ok_iff (hfree : tree.LinkFree) :
    tree.readBytes path = .ok bytes ↔ Accepted path ∧
      tree.Walkable (tree.startOf path) path.parts ∧
        tree.fileAt (tree.siteOf path) = some bytes := by
  rw [readBytes_iff]
  constructor
  · rintro ⟨location, hfind⟩
    obtain ⟨rfl, haccepted, hwalk, hlook⟩ := (find_eq_ok_iff hfree).1 hfind
    exact ⟨haccepted, hwalk, fileAt_eq_some.2 hlook⟩
  · rintro ⟨haccepted, hwalk, hfile⟩
    exact ⟨_, (find_eq_ok_iff hfree).2 ⟨rfl, haccepted, hwalk, fileAt_eq_some.1 hfile⟩⟩

/-- A file can still be read in a tree that has grown elsewhere. -/
theorem Grows.readBytes {sites : List Location} (h : Grows sites before after)
    (hfree : before.LinkFree) (hsite : before.siteOf path ∉ sites)
    (hread : before.readBytes path = .ok bytes) : after.readBytes path = .ok bytes := by
  obtain ⟨haccepted, hwalk, hfile⟩ := (readBytes_eq_ok_iff hfree).1 hread
  refine (readBytes_eq_ok_iff (h.linkFree hfree)).2 ⟨haccepted, h.walkable hwalk, ?_⟩
  rw [h.siteOf, h.files _ hsite, hfile]

end FileTree

section

variable {ε σ : Type} {policy : WritePolicy ε σ} {root path : PathName} {content : String}
  {tree after : FileTree} {state final : σ} {files : List (String × String)} {written : Written ε}

/-- A merge settles its file. -/
theorem settled_of_mergeText (hkeeps : policy.KeepsFiles) (hfree : tree.LinkFree)
    (hfile : FileTree.NamesFile path) {outcome : Outcome}
    (h : mergeText policy path content tree state = (.ok outcome, after, final)) :
    Settled after path content outcome := by
  have hgrows := mergeText_grows hkeeps hfree hfile h
  obtain ⟨hreport, haccepted, hwalk⟩ := mergeText_reported hkeeps hfree hfile h
  have hread : ∀ {bytes}, after.fileAt (tree.siteOf path) = some bytes →
      after.readBytes path = .ok bytes := by
    intro bytes hbytes
    rw [← hgrows.siteOf] at hbytes
    exact (FileTree.readBytes_eq_ok_iff (hgrows.linkFree hfree)).2 ⟨haccepted, hwalk, hbytes⟩
  rcases hreport with ⟨-, hright⟩ | ⟨-, rfl, hbytes⟩
  · cases hright with
    | created _ hafter => exact ⟨_, hread hafter, rfl⟩
    | overwritten _ _ _ hafter => exact ⟨_, hread hafter, rfl⟩
    | unchanged bytes _ hholds hafter => exact ⟨bytes, hread hafter, hholds⟩
    | skipped bytes _ hother hafter => exact ⟨bytes, hread hafter, hother⟩
  · exact ⟨_, hread hbytes, rfl⟩

/-- **Several merges settle their files**: when none of them stopped, every file is as its outcome
says. -/
theorem writeAllMerged_settled (hkeeps : policy.KeepsFiles) (hfree : tree.LinkFree)
    (hapart : Apart (files.map Prod.fst))
    (h : writeAllMerged policy root files tree state = (written, after, final))
    (hstop : written.stop = none) :
    List.Forall₂ (fun file entry => Prod.fst entry = Prod.fst file ∧
        Settled after (root.join (PathName.ofString (Prod.fst file))) (Prod.snd file)
          (Prod.snd entry)) files written.outcomes := by
  induction files generalizing tree state written with
  | nil =>
    cases h
    exact .nil
  | cons file rest ih =>
    obtain ⟨path, content⟩ := file
    have hdown := hapart.1 path List.mem_cons_self
    rcases writeAllMerged_cons h with
      ⟨stop, -, rfl⟩ | ⟨outcome, middle, settled, others, hmerge, hrest, rfl⟩
    · cases hstop
    · have hfirst := mergeText_grows hkeeps hfree (hdown.namesFile root) hmerge
      have hmiddle := hfirst.linkFree hfree
      obtain ⟨bytes, hread, hbytes⟩ :=
        settled_of_mergeText hkeeps hfree (hdown.namesFile root) hmerge
      -- The files behind are written at other sites.
      have hgrows := writeAllMerged_grows hkeeps hmiddle hapart.tail.1 hrest
      have hsite : middle.siteOf (root.join (PathName.ofString path)) ∉
          others.outcomes.map fun entry => middle.siteBelow root entry.1 := by
        intro hmem
        obtain ⟨entry, hentry, hsame⟩ := List.mem_map.1 hmem
        refine hapart.siteBelow_notMem middle root (List.mem_map.2 ⟨entry.1, ?_, hsame⟩)
        have hpaths := (writeAllMerged_outcomes hrest).1
        exact List.mem_of_mem_take (hpaths ▸ List.mem_map_of_mem hentry)
      exact .cons ⟨rfl, bytes, hgrows.readBytes hmiddle hsite hread, hbytes⟩
        (ih hmiddle hapart.tail hrest hstop)

end

end DartLayers
