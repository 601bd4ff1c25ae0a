import DartLayers.Proofs.Merge.Refusals
import DartLayers.Proofs.Merge.Series
import DartLayers.Proofs.Run.Stages

/-!
# DartLayers — refusals in a run

A run writes its files one after the other. Where the system refuses one of them the run fails with a
report that names the path and lists the files before it, unless the refusal escapes the merge; then
the run ends without a result, and nothing tells which files it has written.

The system refuses here what `Refusal` names. A directory that may not be searched is one more reason
for which a refusal can escape the merge, but trees have no permissions.

* **`Run.turn?`** — a run that has written some of its files and comes to the next one.
* **`generateLayers_of_turn`** — how a run ends that cannot write this file.
* **`refusalsReported_iff`** — the path names at which every refusal is reported.
-/

namespace DartLayers

/-! ## Turns -/

/-- A run that comes to write a file: its feature, the outcomes of the files before, the path name and
the content of the file, and how things stand. -/
structure Run.Turn where
  feature : Feature
  outcomes : List (String × Outcome)
  path : PathName
  content : String
  tree : FileTree
  session : Session

/-- The run that has written so many of its files and comes to the next one, if it comes that far. -/
def Run.turn? (settings : Settings) (source : SampleSource) (endpoint method : String)
    (before : FileTree) (session : Session) (count : Nat) : Option Run.Turn :=
  match (prepare settings source endpoint method).run session with
  | (.ok (.ready feature artifacts), asked) =>
    match artifacts[count]?, writeAllMerged (Run.overwritePolicy settings) settings.outputDirectory
      (Run.files (artifacts.take count)) before asked with
    | some artifact, (⟨outcomes, none⟩, tree, session) =>
      some {
        feature, outcomes, tree, session
        path := settings.outputDirectory.join (PathName.ofString artifact.path)
        content := artifact.content }
    | _, _ => none
  | _ => none

/-- What a run comes to where it cannot write a file. -/
def Run.Turn.ending (turn : Run.Turn) : WriteStop Markup.Fault → Except Interruption RunResult
  | .refused path refusal => .ok {
      feature := some turn.feature
      outcomes := turn.outcomes
      error := some (refusedMessage path refusal) }
  | .unreported path refusal => .error (.file path refusal)
  | .policy fault => .error (.markup fault)

variable {settings : Settings} {source : SampleSource} {endpoint method : String}
  {before after : FileTree} {session final : Session} {count : Nat} {turn : Run.Turn}

/-- A run that comes to a file was prepared, and has written the files before it. -/
theorem exists_of_turn (h : Run.turn? settings source endpoint method before session count =
      some turn) :
    ∃ artifacts artifact asked,
      (prepare settings source endpoint method).run session =
          (.ok (.ready turn.feature artifacts), asked) ∧
        artifacts = artifacts.take count ++ artifact :: artifacts.drop (count + 1) ∧
        writeAllMerged (Run.overwritePolicy settings) settings.outputDirectory
            (Run.files (artifacts.take count)) before asked =
          (⟨turn.outcomes, none⟩, turn.tree, turn.session) ∧
        turn.path = settings.outputDirectory.join (PathName.ofString artifact.path) ∧
        turn.content = artifact.content := by
  unfold Run.turn? at h
  split at h
  · rename_i feature artifacts asked hready
    split at h
    · rename_i artifact outcomes tree between hartifact hwritten
      cases h
      obtain ⟨hlt, rfl⟩ := List.getElem?_eq_some_iff.1 hartifact
      refine ⟨artifacts, artifacts[count], asked, hready, ?_, hwritten, rfl, rfl⟩
      rw [← List.drop_eq_getElem_cons hlt, List.take_append_drop]
    · cases h
  · cases h

/-- **Where a file cannot be written the run ends**, with a report of the files before if the refusal
is one that is reported. -/
theorem generateLayers_of_turn {stop : WriteStop Markup.Fault}
    (h : Run.turn? settings source endpoint method before session count = some turn)
    (hstop : writeMerged (Run.overwritePolicy settings) turn.path turn.content turn.tree
      turn.session = (.error stop, after, final)) :
    ∃ ended, (generateLayers settings source endpoint method).run before session =
      ((turn.ending stop, after), ended) := by
  obtain ⟨artifacts, artifact, asked, hready, hsplit, hwritten, hpath, hcontent⟩ := exists_of_turn h
  have hfiles : Run.files artifacts = Run.files (artifacts.take count) ++
      (artifact.path, artifact.content) :: Run.files (artifacts.drop (count + 1)) := by
    conv_lhs => rw [hsplit]
    simp [Run.files]
  have hall : writeAllMerged (Run.overwritePolicy settings) settings.outputDirectory
      (Run.files artifacts) before asked = (⟨turn.outcomes, some stop⟩, after, final) := by
    rw [hpath, hcontent] at hstop
    rw [hfiles, writeAllMerged_append, hwritten]
    dsimp only
    rw [writeAllMerged_cons_eq, hstop]
    simp
  rw [generateLayers_eq, hready]
  dsimp only
  rw [commit_eq, hall]
  cases stop <;> exact ⟨_, rfl⟩

/-! ## Reports -/

/-- Every refusal at a path name is reported: a merge whose policy settles all conflicts comes to an
outcome or to a refusal that names the path, and a run that cannot write the file fails with such a
refusal and the outcomes of the files before. -/
structure RefusalsReported (tree : FileTree) (path : PathName) : Prop where
  named : ∀ {ε σ : Type} (policy : WritePolicy ε σ), policy.Settles →
    ∀ (content : String) (state : σ),
      (∃ outcome, (writeMerged policy path content tree state).1 = .ok outcome) ∨
        ∃ refusal, (writeMerged policy path content tree state).1 = .error (.refused path refusal)
  listed : ∀ {settings : Settings} {source : SampleSource} {endpoint method : String}
    {before after : FileTree} {session final : Session} {count : Nat} {turn : Run.Turn}
    {stop : WriteStop Markup.Fault},
      Run.turn? settings source endpoint method before session count = some turn →
        turn.tree = tree → turn.path = path →
          writeMerged (Run.overwritePolicy settings) path turn.content tree turn.session =
              (.error stop, after, final) → (∀ fault, stop ≠ .policy fault) →
            ∃ refusal ended, (generateLayers settings source endpoint method).run before session =
              ((.ok {
                feature := some turn.feature
                outcomes := turn.outcomes
                error := some (refusedMessage path refusal) }, after), ended)

/-- **Every refusal is reported exactly if the path name does not escape**: if it can be told whether
it leads anywhere, and no null character is met in it. -/
theorem refusalsReported_iff (tree : FileTree) (path : PathName) :
    RefusalsReported tree path ↔ ¬ Escapes tree path := by
  constructor
  · intro h
    have hsettles : (WritePolicy.always (.bool true)).Settles := fun _ _ _ fault => fault.elim
    exact (writeMerged_settled_iff hsettles).1 (h.named _ hsettles "" ())
  · intro hreported
    refine ⟨fun policy hsettles content state => (writeMerged_settled_iff hsettles).2 hreported, ?_⟩
    rintro settings source endpoint method before after session final count turn stop hturn rfl rfl
      hstop hpolicy
    obtain ⟨refusal, rfl⟩ := refused_of_not_escapes hreported (congrArg Prod.fst hstop) hpolicy
    obtain ⟨ended, hrun⟩ := generateLayers_of_turn hturn hstop
    exact ⟨refusal, ended, hrun⟩

/-- A name with one letter too many. -/
def longName : String := String.ofList (List.replicate 256 'a')

/-- The refusal of a name that is too long is not reported. -/
theorem longName_unreported :
    ¬ RefusalsReported (.below [] []) ⟨"", [longName]⟩ ∧
      (writeMerged (.always (.bool true)) ⟨"", [longName]⟩ "x" (.below [] []) ()).1 =
        .error (.unreported ⟨"", [longName]⟩ .nameTooLong) := by
  have hchars : longName.toList = List.replicate 256 'a' := String.toList_ofList
  have hnull : '\x00' ∉ longName.toList := fun hmem =>
    absurd (List.eq_of_mem_replicate (hchars ▸ hmem)) (by decide)
  have hlong : FileTree.IsTooLong (.below [] []) ⟨"", [longName]⟩ :=
    ⟨by simp [PathName.hasNull, hnull], .inr (.long rfl (by decide +kernel) (by decide +kernel))⟩
  have hstop : (writeMerged (.always (.bool true)) ⟨"", [longName]⟩ "x" (.below [] []) ()).1 =
      .error (.unreported ⟨"", [longName]⟩ .nameTooLong) := by
    rw [writeMerged_fst, mergeText, encounter, FileTree.isPresent_error_iff.2 ⟨rfl, hlong⟩]
  refine ⟨fun h => ?_, hstop⟩
  rcases h.named (.always (.bool true)) (fun _ _ _ fault => fault.elim) "x" () with
    ⟨outcome, hok⟩ | ⟨refusal, hrefused⟩
  · rw [hstop] at hok
    cases hok
  · rw [hstop] at hrefused
    cases hrefused

end DartLayers
