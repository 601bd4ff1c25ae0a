import DartLayers.Proofs.FileTree.Ways
import DartLayers.Proofs.Merge.Report

/-!
# DartLayers — merging without loss

A merge may meet any tree, also one with links, and any policy, also one that edits the files while it
settles a conflict. What it does is read off from how it went: the file was missing, it had the
content, or the policy was asked. Nothing is lost in any of these cases, with one exception. A path
name that goes up again from a missing directory leads nowhere, until that directory is made for it;
then it leads to a file that nobody was asked about. The writing itself loses nothing, for it is done
as a whole or refused; a file that is cut off because no space is left is no case of `Refusal`.

* **`questions`** — the paths that a policy is asked about, by keeping account of them.
* **`WithoutLoss`** — what a merge promises.
* **`Bypassed`** — the exception.
* **`writeMerged_withoutLoss_iff`** — a merge keeps its promise exactly if it is no exception.
-/

namespace DartLayers

section

variable {ε σ : Type} {policy : WritePolicy ε σ} {path : PathName} {content : String}
  {tree after : FileTree} {state final : σ} {result : Except (WriteStop ε) Outcome}

/-! ## Questions -/

/-- A policy that keeps account of the paths that it is asked about. -/
def WritePolicy.noting (policy : WritePolicy ε σ) : WritePolicy ε (σ × List PathName) where
  settle path tree noted :=
    let (answer, tree, state) := policy.settle path tree noted.1
    (answer, tree, state, noted.2 ++ [path])
  announce outcome path noted := (policy.announce outcome path noted.1, noted.2)

/-- The paths that a policy is asked about while a file is written. -/
def questions (policy : WritePolicy ε σ) (path : PathName) (content : String) (tree : FileTree)
    (state : σ) : List PathName :=
  (writeMerged policy.noting path content tree (state, [])).2.2.2

theorem settleConflict_noting (noted : List PathName) :
    settleConflict policy.noting path content tree (state, noted) =
      ((settleConflict policy path content tree state).1,
        (settleConflict policy path content tree state).2.1,
        (settleConflict policy path content tree state).2.2, noted ++ [path]) := by
  have hnoting : policy.noting.settle path tree (state, noted) =
      ((policy.settle path tree state).1, (policy.settle path tree state).2.1,
        (policy.settle path tree state).2.2, noted ++ [path]) := rfl
  rw [settleConflict, settleConflict, hnoting]
  rcases policy.settle path tree state with ⟨fault | reply, left, settled⟩
  · rfl
  · dsimp only
    split
    · cases left.writeText path content <;> rfl
    · rfl

open Classical in
/-- Keeping account changes nothing about a merge, and notes a conflict. -/
theorem writeMerged_noting (noted : List PathName) :
    writeMerged policy.noting path content tree (state, noted) =
      ((writeMerged policy path content tree state).1,
        (writeMerged policy path content tree state).2.1,
        (writeMerged policy path content tree state).2.2,
        noted ++ if Conflicts tree path content then [path] else []) := by
  rw [writeMerged, writeMerged, mergeText, mergeText]
  by_cases hconflict : Conflicts tree path content
  · rw [if_pos hconflict, encounter_eq_conflict_iff.2 hconflict]
    dsimp only
    rw [settleConflict_noting]
    rcases settleConflict policy path content tree state with ⟨stop | outcome, merged, settled⟩ <;>
      rfl
  · rw [if_neg hconflict, List.append_nil]
    cases hencounter : encounter (ε := ε) tree path content with
    | error stop => rfl
    | ok found =>
      cases found with
      | absent =>
        dsimp only
        rcases tree.createText path content with ⟨made, refusal⟩
        rcases refusal with _ | refusal
        · rfl
        · cases refusal <;> rfl
      | present => rfl
      | conflict => exact absurd (encounter_eq_conflict_iff.1 hencounter) hconflict

theorem questions_of_conflicts (hconflict : Conflicts tree path content) :
    questions policy path content tree state = [path] := by
  rw [questions, writeMerged_noting, if_pos hconflict, List.nil_append]

theorem questions_of_not_conflicts (hnot : ¬ Conflicts tree path content) :
    questions policy path content tree state = [] := by
  rw [questions, writeMerged_noting, if_neg hnot, List.nil_append]

/-! ## The promise -/

/-- The reply of a policy to a conflict. -/
def WritePolicy.reply (policy : WritePolicy ε σ) (path : PathName) (tree : FileTree) (state : σ) :
    Except ε Json :=
  (policy.settle path tree state).1

open Classical in
/-- The tree that a merge works on: the policy may have edited it while it settled a conflict. -/
noncomputable def WritePolicy.edited (policy : WritePolicy ε σ) (path : PathName) (content : String)
    (tree : FileTree) (state : σ) : FileTree :=
  if Conflicts tree path content then (policy.settle path tree state).2.1 else tree

/-- What a merge promises: the policy is asked once about a conflict and never else; a file is
replaced only where the reply was `true`, and any other reply skips it; without a writing outcome all
files keep their bytes; and nothing changes but what the path name leads to and, where that led
nowhere, the directories on its way. -/
structure WithoutLoss (policy : WritePolicy ε σ) (path : PathName) (content : String)
    (tree : FileTree) (state : σ) (result : Except (WriteStop ε) Outcome) (after : FileTree) :
    Prop where
  asked : Conflicts tree path content → questions policy path content tree state = [path]
  notAsked : ¬ Conflicts tree path content → questions policy path content tree state = []
  replaced : ∀ location bytes,
    (policy.edited path content tree state).fileAt location = some bytes →
      after.fileAt location ≠ some bytes →
        Conflicts tree path content ∧ policy.reply path tree state = .ok (.bool true) ∧
          result = .ok .overwritten ∧ after.find path = .ok (location, .file content.toUTF8)
  overwritten : result = .ok .overwritten →
    Conflicts tree path content ∧ policy.reply path tree state = .ok (.bool true) ∧
      ∃ location, after.find path = .ok (location, .file content.toUTF8)
  declined : Conflicts tree path content → ∀ reply, policy.reply path tree state = .ok reply →
    reply ≠ .bool true → result = .ok .skipped
  kept : (∀ outcome, result = .ok outcome → outcome.writes = false) → ∀ location,
    after.fileAt location = (policy.edited path content tree state).fileAt location
  others : ∀ location,
    after.look location ≠ (policy.edited path content tree state).look location →
      after.find path = .ok (location, .file content.toUTF8) ∨
        tree.isPresent path = .ok false ∧
          (policy.edited path content tree state).look location = none ∧
            ∃ parts, parts <+: path.parts ∧
              after.find ⟨path.root, parts⟩ = .ok (location, .directory)

/-- A path name leads nowhere, and when directories have been made for it, it leads to a file with
other bytes than the content. -/
def Bypassed (tree : FileTree) (path : PathName) (content : String) : Prop :=
  tree.isPresent path = .ok false ∧ ∃ made location bytes,
    FileTree.makeDirectories path.parts.length tree path.parent = (made, none) ∧
      made.locate .newFile path = .ok location ∧
        made.look location = some (.file bytes) ∧ bytes ≠ content.toUTF8

theorem edited_of_conflicts (hconflict : Conflicts tree path content) :
    policy.edited path content tree state = (policy.settle path tree state).2.1 :=
  if_pos hconflict

theorem edited_of_not_conflicts (hnot : ¬ Conflicts tree path content) :
    policy.edited path content tree state = tree :=
  if_neg hnot

/-- A conflict is at the end of a way with parts. -/
theorem Conflicts.parts_ne_nil (hhome : tree.look tree.home = some .directory)
    (hconflict : Conflicts tree path content) : path.parts ≠ [] := by
  obtain ⟨bytes, hread, -⟩ := hconflict
  obtain ⟨location, hfind⟩ := FileTree.readBytes_iff.1 hread
  exact FileTree.parts_ne_nil_of_find (FileTree.starts_of_home hhome path) (by simp) hfind

/-- Replacing what a policy has left: the path name leads to the content then. -/
theorem withoutLoss_of_overwritten (hhome : tree.look tree.home = some .directory)
    (hconflict : Conflicts tree path content) {left : FileTree}
    (hsettle : policy.settle path tree state = (.ok (.bool true), left, final))
    (hwrite : left.writeText path content = .ok after) :
    WithoutLoss policy path content tree state (.ok .overwritten) after := by
  have hstart : left.Starts path := FileTree.starts_of_parts (hconflict.parts_ne_nil hhome)
  obtain ⟨location, hwrote⟩ := FileTree.wrote_of_writeText hstart hwrite
  -- The policy was asked about what it found, and it consented to what it left.
  have hedited : policy.edited path content tree state = left := by
    rw [edited_of_conflicts hconflict, hsettle]
  have hreply : policy.reply path tree state = .ok (.bool true) := by
    rw [WritePolicy.reply, hsettle]
  -- Only the place that the path name leads to has changed.
  have honly : ∀ other, after.look other ≠ left.look other → other = location :=
    fun other hother => Classical.byContradiction fun hne => hother (hwrote.others other hne)
  constructor
  · -- It was asked once, about this path.
    exact questions_of_conflicts
  · exact fun hnot => absurd hconflict hnot
  · -- A file that was replaced is the one that the path name leads to.
    intro other bytes hbefore hafter
    rw [hedited] at hbefore
    have hchanged : after.look other ≠ left.look other := fun hlook =>
      hafter ((FileTree.fileAt_congr hlook).trans hbefore)
    obtain rfl := honly other hchanged
    exact ⟨hconflict, hreply, rfl, hwrote.found⟩
  · exact fun _ => ⟨hconflict, hreply, location, hwrote.found⟩
  · -- It consented, so the outcome cannot be that it declined.
    intro _ reply hother hnot
    rw [hreply] at hother
    cases hother
    exact absurd rfl hnot
  · intro hwrites
    cases hwrites .overwritten rfl
  · intro other hother
    rw [hedited] at hother
    obtain rfl := honly other hother
    exact .inl hwrote.found

/-- A creation that was refused has made directories at most, and it has bypassed nothing: where it
could have found a file it would have written it. -/
theorem made_of_refused (hhome : tree.look tree.home = some .directory) {refusal : Refusal}
    (h : tree.createText path content = (after, some refusal)) :
    FileTree.Made path tree after ∧ ¬ Bypassed tree path content := by
  have hmakes := (FileTree.made_makeDirectories path.parts.length hhome path.parent).of_parent
  rcases FileTree.made_of_uncreated h with hmade | ⟨hmade, hwrite⟩
  · rw [hmade] at hmakes
    refine ⟨hmakes, ?_⟩
    rintro ⟨-, others, place, bytes, hothers, -⟩
    rw [hmade] at hothers
    cases hothers
  · rw [hmade] at hmakes
    refine ⟨hmakes, ?_⟩
    -- the file that was bypassed would have been written
    rintro ⟨-, others, place, bytes, hothers, hplace, hfile, -⟩
    rw [hmade] at hothers
    cases hothers
    rw [FileTree.writeText, FileTree.writeBytes, hplace] at hwrite
    simp [FileTree.isDirectoryAt, hfile] at hwrite

/-- Creating what is missing: only new directories and the new file are there then, unless the way
there was bypassed. -/
theorem withoutLoss_of_created (hhome : tree.look tree.home = some .directory)
    (habsent : tree.isPresent path = .ok false)
    (hcreate : tree.createText path content = (after, none)) :
    WithoutLoss policy path content tree state (.ok .created) after ↔
      ¬ Bypassed tree path content := by
  obtain ⟨made, hmade, hwrite⟩ := FileTree.made_of_created hcreate
  have hnot : ¬ Conflicts tree path content := not_conflicts_of_absent habsent
  have hedited : policy.edited path content tree state = tree := edited_of_not_conflicts hnot
  -- Directories were made first, and the file was written into the last of them.
  have hmakes := (FileTree.made_makeDirectories path.parts.length hhome path.parent).of_parent
  rw [hmade] at hmakes
  have hmadeHome : made.look made.home = some .directory := by
    rw [hmakes.keeps.home]
    exact hmakes.keeps.directories _ hhome
  obtain ⟨location, hwrote⟩ :=
    FileTree.wrote_of_writeText (FileTree.starts_of_home hmadeHome path) hwrite
  have hfileAt : after.fileAt location = some content.toUTF8 :=
    FileTree.fileAt_eq_some.2 (FileTree.locate_of_find hwrote.found).2
  -- From left to right: a bypassed file would have been replaced without a conflict.
  constructor
  · rintro hloss ⟨-, others, place, bytes, hothers, hplace, hfile, hbytes⟩
    obtain rfl : made = others := by
      rw [hmade] at hothers
      cases hothers
      rfl
    obtain rfl : location = place := by
      have hlocate := hwrote.place
      rw [hplace] at hlocate
      cases hlocate
      rfl
    have hbefore : tree.fileAt location = some bytes := by
      rw [← hmakes.fileAt_eq, FileTree.fileAt_eq_some, hfile]
    have hafter : after.fileAt location ≠ some bytes := by
      rw [hfileAt]
      exact fun h => hbytes (Option.some.inj h).symm
    exact hnot (hloss.replaced location bytes (by rw [hedited]; exact hbefore) hafter).1
  · -- From right to left: what the new file stands in the place of had the content.
    intro hway
    constructor
    · exact questions_of_conflicts
    · exact fun _ => questions_of_not_conflicts hnot
    · intro other bytes hbefore hafter
      rw [hedited, ← hmakes.fileAt_eq] at hbefore
      -- Only the place of the new file can have lost its bytes.
      by_cases hother : other = location
      · subst hother
        have hbytes : bytes = content.toUTF8 := Classical.byContradiction fun hne =>
          hway ⟨habsent, made, other, bytes, hmade, hwrote.place,
            FileTree.fileAt_eq_some.1 hbefore, hne⟩
        rw [hbytes] at hafter
        exact absurd hfileAt hafter
      · rw [FileTree.fileAt_congr (hwrote.others other hother)] at hafter
        exact absurd hbefore hafter
    · intro h
      cases h
    · exact fun hconflict => absurd hconflict hnot
    · intro hwrites
      cases hwrites .created rfl
    · -- What has changed is the new file or a directory that was missing on the way.
      intro other hchanged
      rw [hedited] at hchanged
      rw [hedited]
      by_cases hother : other = location
      · subst hother
        exact .inl hwrote.found
      · rw [hwrote.others other hother] at hchanged
        rcases hmakes.made other with hsame | ⟨hnone, parts, hparts, hfound⟩
        · exact absurd hsame hchanged
        · refine .inr ⟨habsent, hnone, parts, hparts, ?_⟩
          exact FileTree.find_of_keepsWays hwrote.keeps hfound
            (hwrote.keeps.directories other (FileTree.locate_of_find hfound).2)

/-- Where nothing was written nothing is lost. -/
theorem withoutLoss_of_kept (hmakes : FileTree.Made path (policy.edited path content tree state) after)
    (hsame : tree.isPresent path = .ok false ∨ after = policy.edited path content tree state)
    (hwrites : ∀ outcome, result = .ok outcome → outcome.writes = false)
    (hdeclined : Conflicts tree path content → ∀ reply, policy.reply path tree state = .ok reply →
      reply ≠ .bool true → result = .ok .skipped) :
    WithoutLoss policy path content tree state result after where
  asked := questions_of_conflicts
  notAsked := questions_of_not_conflicts
  replaced location bytes hbefore hafter := by
    rw [hmakes.fileAt_eq] at hafter
    exact absurd hbefore hafter
  overwritten hresult := by cases hwrites .overwritten hresult
  declined := hdeclined
  kept _ := hmakes.fileAt_eq
  others location hchanged := by
    rcases hmakes.made location with hkept | hmade
    · exact absurd hkept hchanged
    · rcases hsame with habsent | hsame
      · exact .inr ⟨habsent, hmade⟩
      · rw [hsame] at hchanged
        exact absurd rfl hchanged

/-- Where the tree is what the policy has left nothing is lost. -/
theorem withoutLoss_of_left (hleft : after = policy.edited path content tree state)
    (hwrites : ∀ outcome, result = .ok outcome → outcome.writes = false)
    (hdeclined : Conflicts tree path content → ∀ reply, policy.reply path tree state = .ok reply →
      reply ≠ .bool true → result = .ok .skipped) :
    WithoutLoss policy path content tree state result after := by
  refine withoutLoss_of_kept ?_ (.inr hleft) hwrites hdeclined
  rw [hleft]
  exact .refl path _

/-- **A merge keeps its promise**, in any tree and whatever the policy does, exactly if the way to
its file was not bypassed. -/
theorem writeMerged_withoutLoss_iff (hhome : tree.look tree.home = some .directory)
    (h : writeMerged policy path content tree state = (result, after, final)) :
    WithoutLoss policy path content tree state result after ↔ ¬ Bypassed tree path content := by
  obtain ⟨settled, hmerging⟩ := writeMerged_cases h
  -- A path name in conflict is there, so the way to it is not bypassed.
  have hway : Conflicts tree path content → ¬ Bypassed tree path content :=
    fun hconflict hbypassed => not_conflicts_of_absent hbypassed.1 hconflict
  cases hmerging with
  -- Where nothing is written both sides hold: the tree is what the policy has left, or as it was.
  | stopped stop _ hpresent hnot =>
    refine iff_of_true (withoutLoss_of_left (edited_of_not_conflicts hnot).symm
      (fun _ h => by cases h) ?_)
      fun hbypassed => hpresent hbypassed.1
    exact fun hconflict => absurd hconflict hnot
  -- The one case in which a file may be lost.
  | created _ habsent hcreate => exact withoutLoss_of_created hhome habsent hcreate
  | uncreated _ refusal stop _ habsent hcreate =>
    have hnot : ¬ Conflicts tree path content := not_conflicts_of_absent habsent
    obtain ⟨hmakes, hbypassed⟩ := made_of_refused hhome hcreate
    refine iff_of_true (withoutLoss_of_kept ?_ (.inl habsent) (fun _ h => by cases h) ?_) hbypassed
    · rw [edited_of_not_conflicts hnot]
      exact hmakes
    · exact fun hconflict => absurd hconflict hnot
  | unchanged bytes hread hholds =>
    have hnot : ¬ Conflicts tree path content := by
      rintro ⟨others, hothers, hother⟩
      rw [hread] at hothers
      cases hothers
      exact hother hholds
    refine iff_of_true (withoutLoss_of_left (edited_of_not_conflicts hnot).symm ?_ ?_) ?_
    · intro outcome houtcome
      cases houtcome
      rfl
    · exact fun hconflict => absurd hconflict hnot
    · intro hbypassed
      have hpresent := FileTree.isPresent_of_readBytes hread
      rw [hbypassed.1] at hpresent
      cases hpresent
  -- In the other cases the path was in conflict, and the policy was asked.
  | failed fault left _ hconflict hsettle =>
    refine iff_of_true (withoutLoss_of_left ?_ (fun _ h => by cases h) ?_) (hway hconflict)
    · rw [edited_of_conflicts hconflict, hsettle]
    · intro _ reply hreply
      rw [WritePolicy.reply, hsettle] at hreply
      cases hreply
  | skipped reply left _ hconflict hsettle hreply =>
    refine iff_of_true (withoutLoss_of_left ?_ ?_ fun _ _ _ _ => rfl) (hway hconflict)
    · rw [edited_of_conflicts hconflict, hsettle]
    · intro outcome houtcome
      cases houtcome
      rfl
  | overwritten left _ _ hconflict hsettle hwrite =>
    exact iff_of_true (withoutLoss_of_overwritten hhome hconflict hsettle hwrite) (hway hconflict)
  | unwritten refusal left _ hconflict hsettle =>
    refine iff_of_true (withoutLoss_of_left ?_ (fun _ h => by cases h) ?_) (hway hconflict)
    · rw [edited_of_conflicts hconflict, hsettle]
    · intro _ reply hreply hother
      rw [WritePolicy.reply, hsettle] at hreply
      cases hreply
      exact absurd rfl hother

/-! ## Interrupted merges -/

/-- A null character stops a creation if there is one in the names of the directories, or else in the
name of the file, when the directories are there. -/
theorem FileTree.createText_nullByte_iff :
    (tree.createText path content).2 = some .nullByte ↔
      path.hasNull = true ∧ (path.parent.hasNull = true ∨
        (FileTree.makeDirectories path.parts.length tree path.parent).2 = none) := by
  cases hparent : path.parent.hasNull with
  | true =>
    rw [createText, makeDirectories_of_hasNull hparent]
    simp [parent_hasNull hparent]
  | false =>
    rw [createText]
    cases hmake : makeDirectories path.parts.length tree path.parent with
    | mk made refusal =>
      cases refusal with
      | some refusal =>
        have hother : refusal ≠ .nullByte := by
          rintro rfl
          have hhas := makeDirectories_nullByte (congrArg Prod.snd hmake)
          rw [hparent] at hhas
          cases hhas
        simp [hother]
      | none =>
        rw [← @locate_eq_nullByte made path .newFile]
        dsimp only
        rw [writeText, writeBytes]
        cases made.locate .newFile path with
        | error refusal => simp
        | ok location =>
          dsimp only
          cases made.isDirectoryAt location <;> simp

/-- A creation that is refused for a null character has made nothing, unless the null character is in
the name of the file itself. -/
theorem createText_nullByte (hparent : path.hasNull = true → path.parent.hasNull = true)
    (h : tree.createText path content = (after, some .nullByte)) : after = tree := by
  obtain ⟨hnull, -⟩ := FileTree.createText_nullByte_iff.1 (congrArg Prod.snd h)
  rw [FileTree.createText, FileTree.makeDirectories_of_hasNull (hparent hnull)] at h
  cases h
  rfl

/-- A merge that is interrupted by the tree, and not by the policy, changes nothing. -/
theorem mergeText_unreported (hparent : path.hasNull = true → path.parent.hasNull = true)
    {refused : PathName} {refusal : Refusal}
    (h : mergeText policy path content tree state =
      (.error (.unreported refused refusal), after, final)) : after = tree ∧ final = state := by
  rw [mergeText] at h
  split at h
  · cases h
    exact ⟨rfl, rfl⟩
  · split at h
    · cases h
    · rename_i made hcreate
      cases h
      exact ⟨createText_nullByte hparent hcreate, rfl⟩
    · cases h
  · cases h
  · rw [settleConflict] at h
    split at h
    · cases h
    · split at h
      · split at h <;> cases h
      · cases h

end

/-- A policy that gives the same reply to every conflict. -/
def WritePolicy.always (reply : Json) : WritePolicy Empty Unit where
  settle _ tree state := (.ok reply, tree, state)
  announce _ _ state := state

/-- A tree with one file. -/
def noteTree : FileTree := .below [] [("note", .file "mine".toUTF8)]

/-- A file is replaced by consent, and nothing is lost. -/
theorem note_replaced_withoutLoss :
    (writeMerged (.always (.bool true)) (.ofString "note") "new" noteTree ()).1 =
        .ok .overwritten ∧
      WithoutLoss (.always (.bool true)) (.ofString "note") "new" noteTree ()
        (writeMerged (.always (.bool true)) (.ofString "note") "new" noteTree ()).1
        (writeMerged (.always (.bool true)) (.ofString "note") "new" noteTree ()).2.1 := by
  refine ⟨by rfl, ?_⟩
  refine (writeMerged_withoutLoss_iff rfl rfl).2 fun hbypassed => ?_
  have hpresent : noteTree.isPresent (.ofString "note") = .ok true := by rfl
  rw [hbypassed.1] at hpresent
  cases hpresent

/-- On a detour through a missing directory a file is replaced that nobody was asked about. -/
theorem note_lost_on_detour :
    ¬ WithoutLoss (.always (.bool false)) (.ofString "x/../note") "new" noteTree ()
      (writeMerged (.always (.bool false)) (.ofString "x/../note") "new" noteTree ()).1
      (writeMerged (.always (.bool false)) (.ofString "x/../note") "new" noteTree ()).2.1 := by
  intro hloss
  have habsent : noteTree.isPresent (.ofString "x/../note") = .ok false := by rfl
  have hnot : ¬ Conflicts noteTree (.ofString "x/../note") "new" :=
    not_conflicts_of_absent habsent
  have hbefore : noteTree.fileAt ["note"] = some "mine".toUTF8 := by decide +kernel
  have hafter : (writeMerged (.always (.bool false)) (.ofString "x/../note") "new" noteTree
      ()).2.1.fileAt ["note"] = some "new".toUTF8 := by decide +kernel
  refine hnot (hloss.replaced ["note"] "mine".toUTF8 ?_ ?_).1
  · rw [edited_of_not_conflicts hnot, hbefore]
  · rw [hafter]
    decide +kernel

end DartLayers
