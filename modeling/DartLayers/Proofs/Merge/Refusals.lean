import DartLayers.Proofs.FileTree.Lengths
import DartLayers.Proofs.Merge.Loss

/-!
# DartLayers — refusals in a merge

A merge that is refused by the system stops with the path and the refusal. Two refusals escape that
report, for they are met where nothing is there to catch them: a path name that is too long to be
asked about, and a null character in it, which no directory and no file can be made with. Neither the
content nor the policy has a part in it.

* **`Escapes`** — the path names whose refusal is not reported.
* **`mergeText_unreported_iff`** — the merges that stop without a report.
* **`writeMerged_settled_iff`** — a merge comes to an outcome or a report exactly for the others.
-/

namespace DartLayers

/-- The refusal of a path name escapes: it is too long to be asked about, or it has a null character
and the way is clear up to that. -/
def Escapes (tree : FileTree) (path : PathName) : Prop :=
  tree.IsTooLong path ∨ path.hasNull = true ∧ (path.parent.hasNull = true ∨
    (FileTree.makeDirectories path.parts.length tree path.parent).2 = none)

namespace FileTree

variable {tree : FileTree} {path : PathName}

/-- A path name with a null character leads nowhere. -/
theorem isPresent_of_hasNull (h : path.hasNull = true) : tree.isPresent path = .ok false := by
  rw [isPresent, leadsTo, find, locate_eq_nullByte.2 h]
  rfl

/-- Where it can be told whether a path name leads anywhere, only a null character escapes. -/
theorem escapes_iff_of_isPresent {present : Bool} (h : tree.isPresent path = .ok present) :
    Escapes tree path ↔ path.hasNull = true ∧ (path.parent.hasNull = true ∨
      (makeDirectories path.parts.length tree path.parent).2 = none) := by
  refine or_iff_right fun hlong => ?_
  rw [isPresent_error_iff.2 ⟨rfl, hlong⟩] at h
  cases h

end FileTree

section

variable {ε σ : Type} {policy : WritePolicy ε σ} {path : PathName} {content : String}
  {tree : FileTree} {state : σ}

/-- A conflict that is settled stops a merge with a report, or by the policy. -/
theorem settleConflict_ne_unreported (refused : PathName) (refusal : Refusal) :
    (settleConflict policy path content tree state).1 ≠ .error (.unreported refused refusal) := by
  rw [settleConflict]
  rcases policy.settle path tree state with ⟨fault | reply, left, settled⟩
  · simp
  · dsimp only
    split
    · cases left.writeText path content <;> simp
    · simp

/-- **The merges that stop without a report** are those whose path name escapes. -/
theorem mergeText_unreported_iff :
    (∃ refused refusal,
        (mergeText policy path content tree state).1 = .error (.unreported refused refusal)) ↔
      Escapes tree path := by
  rw [mergeText, encounter]
  cases hpresent : tree.isPresent path with
  | error refusal =>
    exact iff_of_true ⟨path, refusal, rfl⟩ (.inl (FileTree.isPresent_error_iff.1 hpresent).2)
  | ok present =>
    rw [FileTree.escapes_iff_of_isPresent hpresent]
    cases present with
    | false =>
      rw [← @FileTree.createText_nullByte_iff path content tree]
      dsimp only
      rcases tree.createText path content with ⟨made, _ | refusal⟩
      · simp
      · cases refusal <;> simp
    | true =>
      -- what is there has no null character, and only its bytes or the policy can stop the merge
      have hnull : path.hasNull = false := by
        rw [Bool.eq_false_iff]
        intro hhas
        rw [FileTree.isPresent_of_hasNull hhas] at hpresent
        cases hpresent
      refine iff_of_false ?_ (by simp [hnull])
      cases tree.readBytes path with
      | error other => simp
      | ok bytes =>
        dsimp only
        cases holdsContent content bytes with
        | true => simp
        | false =>
          rintro ⟨refused, refusal, hstop⟩
          exact settleConflict_ne_unreported refused refusal hstop

/-- An announcement changes nothing about what a merge came to. -/
theorem writeMerged_fst (policy : WritePolicy ε σ) (path : PathName) (content : String)
    (tree : FileTree) (state : σ) :
    (writeMerged policy path content tree state).1 =
      (mergeText policy path content tree state).1 := by
  rw [writeMerged]
  rcases mergeText policy path content tree state with ⟨stop | outcome, merged, settled⟩ <;> rfl

/-- The policy settles every conflict. -/
def WritePolicy.Settles (policy : WritePolicy ε σ) : Prop :=
  ∀ path tree state fault, (policy.settle path tree state).1 ≠ .error fault

/-- A merge is stopped by its policy only where that fails. -/
theorem mergeText_ne_policy (hsettles : policy.Settles) (fault : ε) :
    (mergeText policy path content tree state).1 ≠ .error (.policy fault) := by
  intro hstop
  rcases hmerge : mergeText policy path content tree state with ⟨result, after, final⟩
  rw [hmerge] at hstop
  dsimp only at hstop
  subst hstop
  cases mergeText_cases hmerge with
  | stopped _ hother => exact hother fault rfl
  | uncreated _ _ _ hother => exact hother fault rfl
  | failed _ _ _ _ hsettle => exact hsettles path tree state fault (by rw [hsettle])

/-- A merge that the system stops is refused with its path, if the path name does not escape. -/
theorem refused_of_not_escapes {stop : WriteStop ε} (hreported : ¬ Escapes tree path)
    (h : (writeMerged policy path content tree state).1 = .error stop)
    (hpolicy : ∀ fault, stop ≠ .policy fault) : ∃ refusal, stop = .refused path refusal := by
  rw [writeMerged_fst] at h
  cases stop with
  | refused refused refusal =>
    rcases hmerge : mergeText policy path content tree state with ⟨result, after, final⟩
    rw [hmerge] at h
    dsimp only at h
    subst h
    exact ⟨refusal, by rw [mergeText_refused hmerge]⟩
  | unreported refused refusal =>
    exact absurd (mergeText_unreported_iff.1 ⟨refused, refusal, h⟩) hreported
  | policy fault => exact absurd rfl (hpolicy fault)

/-- **A merge comes to an outcome or to a report that names its path**, exactly if the path name does
not escape. -/
theorem writeMerged_settled_iff (hsettles : policy.Settles) :
    ((∃ outcome, (writeMerged policy path content tree state).1 = .ok outcome) ∨
        ∃ refusal, (writeMerged policy path content tree state).1 =
          .error (.refused path refusal)) ↔
      ¬ Escapes tree path := by
  constructor
  · intro hsettled hescapes
    obtain ⟨refused, refusal, hstop⟩ :=
      (@mergeText_unreported_iff _ _ policy path content tree state).2 hescapes
    rw [← writeMerged_fst] at hstop
    rcases hsettled with ⟨outcome, h⟩ | ⟨other, h⟩
    · cases hstop.symm.trans h
    · cases hstop.symm.trans h
  · intro hreported
    cases hresult : (writeMerged policy path content tree state).1 with
    | ok outcome => exact .inl ⟨outcome, rfl⟩
    | error stop =>
      have hpolicy : ∀ fault, stop ≠ .policy fault := by
        rintro fault rfl
        rw [writeMerged_fst] at hresult
        exact mergeText_ne_policy hsettles fault hresult
      obtain ⟨refusal, rfl⟩ := refused_of_not_escapes hreported hresult hpolicy
      exact .inr ⟨refusal, rfl⟩

end

end DartLayers
