import DartLayers.Merge

/-!
# DartLayers — how a merge goes

A merge may meet any tree, also one with links, and any policy, also one that edits the files while it
settles a conflict. There are few ways for it to go: the case of the path cannot be told, the file is
missing and is created or not, it has the content, or the policy is asked and consents, declines or
fails. What is known of merges is read off from this list.

* **`Contains`** — the text of a file has a content in it.
* **`Conflicts`** — a file that can be read and does not hold the content.
* **`Merging`**, **`mergeText_cases`** — how a merge went.
-/

namespace DartLayers

/-! ## Conflicts -/

/-- The bytes of a file are text that, read with universal line breaks, has a content in it. -/
def Contains (bytes : ByteArray) (content : String) : Prop :=
  ∃ text, decodeText bytes = .ok text ∧ content.toList <:+: text.toList

theorem holdsContent_iff {bytes : ByteArray} {content : String} :
    holdsContent content bytes = true ↔ Contains bytes content := by
  unfold holdsContent Contains
  cases hdecoded : decodeText bytes with
  | ok text => simp [occursIn_iff]
  | error fault => simp

/-- A path leads to a file that can be read, and its text, if it is text, does not hold the content. -/
def Conflicts (tree : FileTree) (path : PathName) (content : String) : Prop :=
  ∃ bytes, tree.readBytes path = .ok bytes ∧ ¬ Contains bytes content

theorem consents_iff {reply : Json} : consents reply = true ↔ reply = .bool true := by
  cases reply with
  | bool answer => cases answer <;> simp [consents]
  | _ => simp [consents]

namespace FileTree

variable {tree : FileTree} {path : PathName}

theorem readBytes_iff {bytes : ByteArray} :
    tree.readBytes path = .ok bytes ↔ ∃ location, tree.find path = .ok (location, .file bytes) := by
  rw [readBytes]
  split
  · rename_i hfind
    simp [hfind]
  · rename_i location found hfind
    simp [hfind]
  · rename_i hnot hfind
    constructor
    · intro h
      cases h
    · rintro ⟨location, hfound⟩
      rw [hfound] at hfind
      exact absurd rfl (hnot location bytes ∘ fun h => by cases hfind; exact h)

/-- What can be read is there. -/
theorem isPresent_of_readBytes {bytes : ByteArray} (h : tree.readBytes path = .ok bytes) :
    tree.isPresent path = .ok true := by
  obtain ⟨location, hfind⟩ := readBytes_iff.1 h
  rw [isPresent, leadsTo, hfind]

end FileTree

section

variable {ε σ : Type} {policy : WritePolicy ε σ} {path : PathName} {content : String}
  {tree after : FileTree} {state final : σ} {result : Except (WriteStop ε) Outcome}

theorem encounter_eq_absent_iff :
    encounter (ε := ε) tree path content = .ok .absent ↔ tree.isPresent path = .ok false := by
  rw [encounter]
  split
  · rename_i hpresent
    simp [hpresent]
  · rename_i hpresent
    simp [hpresent]
  · rename_i hpresent
    rw [hpresent]
    split
    · simp
    · split <;> simp

theorem encounter_eq_present_iff : encounter (ε := ε) tree path content = .ok .present ↔
    ∃ bytes, tree.readBytes path = .ok bytes ∧ Contains bytes content := by
  constructor
  · intro h
    rw [encounter] at h
    split at h
    · cases h
    · cases h
    · split at h
      · cases h
      · rename_i bytes hread
        split at h
        · rename_i hholds
          exact ⟨bytes, hread, holdsContent_iff.1 hholds⟩
        · cases h
  · rintro ⟨bytes, hread, hcontains⟩
    rw [encounter, FileTree.isPresent_of_readBytes hread]
    simp [hread, holdsContent_iff.2 hcontains]

/-- The case of a path cannot be told if it cannot be looked for, or what is there cannot be read. -/
theorem encounter_eq_error {stop : WriteStop ε} (h : encounter tree path content = .error stop) :
    (∃ refusal, tree.isPresent path = .error refusal ∧ stop = .unreported path refusal) ∨
      ∃ refusal, tree.readBytes path = .error refusal ∧ stop = .refused path refusal := by
  rw [encounter] at h
  split at h
  · rename_i refusal hpresent
    cases h
    exact .inl ⟨refusal, hpresent, rfl⟩
  · cases h
  · split at h
    · rename_i refusal hread
      cases h
      exact .inr ⟨refusal, hread, rfl⟩
    · cases h

/-- No policy has been asked when the case of a path cannot be told. -/
theorem encounter_ne_policy {stop : WriteStop ε} (h : encounter tree path content = .error stop)
    (fault : ε) : stop ≠ .policy fault := by
  rcases encounter_eq_error h with ⟨refusal, -, rfl⟩ | ⟨refusal, -, rfl⟩
  · rintro ⟨⟩
  · rintro ⟨⟩

theorem encounter_eq_conflict_iff :
    encounter (ε := ε) tree path content = .ok .conflict ↔ Conflicts tree path content := by
  constructor
  · intro h
    rw [encounter] at h
    split at h
    · cases h
    · cases h
    · split at h
      · cases h
      · rename_i bytes hread
        refine ⟨bytes, hread, fun hcontains => ?_⟩
        rw [holdsContent_iff.2 hcontains] at h
        cases h
  · rintro ⟨bytes, hread, hother⟩
    have hholds : holdsContent content bytes = false :=
      Bool.eq_false_iff.2 fun h => hother (holdsContent_iff.1 h)
    rw [encounter, FileTree.isPresent_of_readBytes hread]
    simp [hread, hholds]

/-! ## How a merge went -/

/-- The ways that a merge may go, with what it came to. -/
inductive Merging (policy : WritePolicy ε σ) (path : PathName) (content : String) (tree : FileTree)
    (state : σ) : Except (WriteStop ε) Outcome → FileTree → σ → Prop where
  | stopped (stop : WriteStop ε) (hstop : ∀ fault, stop ≠ .policy fault)
      (hpresent : tree.isPresent path ≠ .ok false) (hnot : ¬ Conflicts tree path content) :
      Merging policy path content tree state (.error stop) tree state
  | created (after : FileTree) (habsent : tree.isPresent path = .ok false)
      (hcreate : tree.createText path content = (after, none)) :
      Merging policy path content tree state (.ok .created) after state
  | uncreated (made : FileTree) (refusal : Refusal) (stop : WriteStop ε)
      (hstop : ∀ fault, stop ≠ .policy fault) (habsent : tree.isPresent path = .ok false)
      (hcreate : tree.createText path content = (made, some refusal)) :
      Merging policy path content tree state (.error stop) made state
  | unchanged (bytes : ByteArray) (hread : tree.readBytes path = .ok bytes)
      (hholds : Contains bytes content) :
      Merging policy path content tree state (.ok .unchanged) tree state
  | failed (fault : ε) (left : FileTree) (final : σ) (hconflict : Conflicts tree path content)
      (hsettle : policy.settle path tree state = (.error fault, left, final)) :
      Merging policy path content tree state (.error (.policy fault)) left final
  | skipped (reply : Json) (left : FileTree) (final : σ)
      (hconflict : Conflicts tree path content)
      (hsettle : policy.settle path tree state = (.ok reply, left, final))
      (hreply : reply ≠ .bool true) :
      Merging policy path content tree state (.ok .skipped) left final
  | overwritten (left after : FileTree) (final : σ) (hconflict : Conflicts tree path content)
      (hsettle : policy.settle path tree state = (.ok (.bool true), left, final))
      (hwrite : left.writeText path content = .ok after) :
      Merging policy path content tree state (.ok .overwritten) after final
  | unwritten (refusal : Refusal) (left : FileTree) (final : σ)
      (hconflict : Conflicts tree path content)
      (hsettle : policy.settle path tree state = (.ok (.bool true), left, final)) :
      Merging policy path content tree state (.error (.refused path refusal)) left final

/-- A path name that leads nowhere presents no conflict. -/
theorem not_conflicts_of_absent (habsent : tree.isPresent path = .ok false) :
    ¬ Conflicts tree path content := by
  rintro ⟨bytes, hread, -⟩
  rw [FileTree.isPresent_of_readBytes hread] at habsent
  cases habsent

/-- How a conflict was settled. -/
theorem settleConflict_cases (hconflict : Conflicts tree path content)
    (h : settleConflict policy path content tree state = (result, after, final)) :
    Merging policy path content tree state result after final := by
  rw [settleConflict] at h
  split at h
  · rename_i fault left settled hsettle
    cases h
    exact .failed fault _ _ hconflict hsettle
  · rename_i reply left settled hsettle
    split at h
    · rename_i hconsents
      obtain rfl := consents_iff.1 hconsents
      -- the policy consents, so what is left now is the writing
      split at h
      · rename_i written hwrite
        cases h
        exact .overwritten left _ _ hconflict hsettle hwrite
      · rename_i refusal hwrite
        cases h
        exact .unwritten refusal _ _ hconflict hsettle
    · rename_i hdeclined
      cases h
      exact .skipped reply _ _ hconflict hsettle fun hreply => hdeclined (consents_iff.2 hreply)

/-- **How a merge went.** -/
theorem mergeText_cases (h : mergeText policy path content tree state = (result, after, final)) :
    Merging policy path content tree state result after final := by
  rw [mergeText] at h
  split at h
  · rename_i stop hencounter
    cases h
    -- the other cases of a path are told, so it is in none of them
    refine .stopped stop (encounter_ne_policy hencounter) (fun habsent => ?_) fun hconflict => ?_
    · rw [encounter_eq_absent_iff.2 habsent] at hencounter
      cases hencounter
    · rw [encounter_eq_conflict_iff.2 hconflict] at hencounter
      cases hencounter
  · rename_i hencounter
    have habsent := encounter_eq_absent_iff.1 hencounter
    split at h
    · rename_i made hcreate
      cases h
      exact .created _ habsent hcreate
    · rename_i made hcreate
      cases h
      exact .uncreated _ _ _ (fun _ h => by cases h) habsent hcreate
    · rename_i made refusal hnull hcreate
      cases h
      exact .uncreated _ _ _ (fun _ h => by cases h) habsent hcreate
  · rename_i hencounter
    cases h
    obtain ⟨bytes, hread, hholds⟩ := encounter_eq_present_iff.1 hencounter
    exact .unchanged bytes hread hholds
  · rename_i hencounter
    exact settleConflict_cases (encounter_eq_conflict_iff.1 hencounter) h

/-- An announcement leaves the result and the tree alone. -/
theorem writeMerged_cases
    (h : writeMerged policy path content tree state = (result, after, final)) :
    ∃ settled, Merging policy path content tree state result after settled := by
  rw [writeMerged] at h
  split at h
  · rename_i outcome merged settled hmerge
    cases h
    exact ⟨settled, mergeText_cases hmerge⟩
  · rename_i stop merged settled hmerge
    cases h
    exact ⟨_, mergeText_cases hmerge⟩

end

end DartLayers
