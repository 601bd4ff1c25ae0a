import DartLayers.Proofs.Merge.Loss
import DartLayers.Proofs.Run.Consent

/-!
# DartLayers — runs that end before the writing

A run may end before it deals with a file: the operator declines, the method or the sample fails, or
something interrupts it. All of that comes before the first file is looked at, and so the tree is as it
was, nobody was asked about a file, and nothing is reported about one. This holds in all trees, also in
those with links.

* **`EndsEarly`** — a run ended before it dealt with a file.
* **`LeavesNoTrace`** — nothing has changed and nobody was asked.
* **`RunResult.IsDecided`** — a report says exactly one of three things.
* **`generateLayers_early`** — runs that end early leave no trace, and all reports are decided.
-/

namespace DartLayers

/-! ## Ends -/

/-- Whether something can only interrupt a run while it is prepared. -/
def Interruption.isEarly : Interruption → Bool
  | .address _ => true
  | .longInteger _ => true
  | .plan _ => true
  | .template _ => true
  | .markup _ => false
  | .file _ _ => false
  | .manifest _ => false

/-- A run ended before it dealt with a file: the operator declined, the method was not one of those
that are supported, there was no sample, or it was interrupted, by something that comes earlier or
with no file dealt with. -/
inductive EndsEarly (method : String) (recorded : List (String × Outcome)) :
    Except Interruption RunResult → Prop where
  | declined (report : RunResult) (h : report.aborted = true) :
      EndsEarly method recorded (.ok report)
  | method (report : RunResult)
      (h : report.error = some (HttpMethod.unsupportedMessage method)) :
      EndsEarly method recorded (.ok report)
  | sample (report : RunResult) (fault : FetchFault)
      (h : report.error = some ("Could not fetch API response: " ++ fault.message)) :
      EndsEarly method recorded (.ok report)
  | stage (interruption : Interruption) (h : interruption.isEarly = true) :
      EndsEarly method recorded (.error interruption)
  | interrupted (interruption : Interruption) (h : recorded = []) :
      EndsEarly method recorded (.error interruption)

/-- The question whether a file may be replaced. -/
def AsksOverwrite (text : String) : Prop :=
  ∃ path shown, Markup.plain (Operator.overwriteQuestion path) = .ok shown ∧
    text = Session.confirmText shown false

/-- A run has changed nothing, has not asked about a file that is there, and reports no file. -/
structure LeavesNoTrace (before after : FileTree) (session final : Session)
    (recorded : List (String × Outcome)) (result : Except Interruption RunResult) : Prop where
  unchanged : after = before
  unasked : ∀ exchange ∈ session.dialogue final, ¬ AsksOverwrite exchange.1
  unrecorded : recorded = []
  unreported : ∀ report, result = .ok report → report.outcomes = []

/-- A report says that a run succeeded, that the operator declined, or that it failed, and only one of
these. -/
def RunResult.IsDecided (report : RunResult) : Prop :=
  (report.success = true ∧ report.aborted = false ∧ report.error = none) ∨
    (report.success = false ∧ report.aborted = true ∧ report.error = none) ∨
      (report.success = false ∧ report.aborted = false ∧ report.error ≠ none)

/-- The question about a file starts with a letter that no earlier question starts with. -/
theorem not_asksOverwrite {text : String} (h : AsksBefore text) : ¬ AsksOverwrite text := by
  rintro ⟨path, shown, hshown, rfl⟩
  have hfront : (Operator.overwriteQuestion path).toList.head? = some 'F' := by
    simp [Operator.overwriteQuestion]
  have hhead := Markup.plain_head (by decide) hfront hshown
  refine h ?_
  obtain ⟨rest, hrest⟩ := List.head?_eq_some_iff.1 hhead
  simp [Session.confirmText, hrest]

variable {settings : Settings} {source : SampleSource} {endpoint method : String}
  {feature : Feature} {artifacts : List Artifact} {before after : FileTree}
  {session asked final : Session} {result : Except Interruption RunResult}

/-- The dialogue of a preparation has no question about a file that is there. -/
theorem unasked_of_prepared {prepared : Except Interruption Preparation}
    (h : (prepare settings source endpoint method).run session = (prepared, asked)) :
    ∀ exchange ∈ session.dialogue asked, ¬ AsksOverwrite exchange.1 := by
  obtain ⟨entries, htalks, hasked⟩ := (speaks_prepare settings source endpoint method).of_eq h
  intro exchange hmem
  rw [htalks.dialogue_eq] at hmem
  have htext := List.mem_map_of_mem (f := Prod.fst) hmem
  rw [exchanges_map_fst] at htext
  exact not_asksOverwrite (hasked _ htext)

/-! ## Reports -/

/-- What interrupts the end of a run is a value in the manifest. -/
theorem registerIfAsked_error {interruption : Interruption}
    (h : (Run.registerIfAsked settings).run before session =
      ((.error interruption, after), final)) : interruption.isEarly = false := by
  rw [Run.registerIfAsked] at h
  split at h
  · cases h
  · rename_i project hproject
    have hget : (get : ExceptT Interruption Work FileTree).run before session =
      ((.ok before, before), session) := rfl
    rw [Run.registerDependencies, work_bind, hget] at h
    dsimp only at h
    split at h
    · cases h
    · rename_i fault hfault
      cases hentry : Run.updateFaultEntry fault with
      | ok entry =>
        rw [hentry] at h
        cases h
      | error other =>
        rw [hentry] at h
        cases h
        unfold Run.updateFaultEntry at hentry
        split at hentry
        · cases hentry
        · cases hentry
        · cases hentry
        · cases hentry
          rfl

/-- **What a run that came to the writing can come to**: success, the refusal of a file, or an
interruption that is not early. -/
theorem commit_result
    (h : (Run.commit settings feature artifacts).run before asked = ((result, after), final)) :
    (∀ report, result = .ok report → report.aborted = false ∧
        (report.success = true ∧ report.error = none ∨
          report.success = false ∧
            ∃ path refusal, report.error = some (refusedMessage path refusal))) ∧
      ∀ interruption, result = .error interruption → interruption.isEarly = false := by
  rw [commit_eq] at h
  split at h
  · rename_i outcomes written between hwrite
    rw [Run.finish, work_bind] at h
    rcases hregister : (Run.registerIfAsked settings).run written between with
      ⟨⟨interruption | added, updated⟩, registered⟩
    · rw [hregister] at h
      cases h
      refine ⟨(fun _ hsame => by cases hsame), fun _ hsame => ?_⟩
      cases hsame
      exact registerIfAsked_error hregister
    · rw [hregister] at h
      cases h
      refine ⟨fun _ hsame => ?_, fun _ hsame => by cases hsame⟩
      cases hsame
      exact ⟨rfl, .inl ⟨rfl, rfl⟩⟩
  · rename_i path refusal _ _ _
    cases h
    refine ⟨fun _ hsame => ?_, fun _ hsame => by cases hsame⟩
    cases hsame
    exact ⟨rfl, .inr ⟨rfl, path, refusal, rfl⟩⟩
  -- The other stops are interruptions by the writing.
  all_goals
    cases h
    refine ⟨(fun _ hsame => by cases hsame), fun _ hsame => ?_⟩
    cases hsame
    rfl

/-- Texts that differ in their first two characters differ. -/
theorem append_ne_append {text other : String} (rest others : String)
    (hlength : 2 ≤ text.toList.length ∧ 2 ≤ other.toList.length)
    (h : text.toList.take 2 ≠ other.toList.take 2) : text ++ rest ≠ other ++ others := by
  intro hsame
  have htake := congrArg (fun whole : String => whole.toList.take 2) hsame
  simp only [String.toList_append] at htake
  rw [List.take_append_of_le_length hlength.1, List.take_append_of_le_length hlength.2] at htake
  exact h htake

/-- The refusal of a file is worded in its own way. -/
theorem refusedMessage_ne (path : PathName) (refusal : Refusal) (method : String)
    (fault : FetchFault) : refusedMessage path refusal ≠ HttpMethod.unsupportedMessage method ∧
      refusedMessage path refusal ≠ "Could not fetch API response: " ++ fault.message := by
  have hmethod : HttpMethod.unsupportedMessage method = "Unsupported HTTP method: " ++
      Text.quoted method ++ " (expected GET, POST, PUT or DELETE)" := rfl
  rw [hmethod]
  unfold refusedMessage
  simp only [String.append_assoc]
  exact ⟨append_ne_append _ _ (by decide +kernel) (by decide +kernel),
    append_ne_append _ _ (by decide +kernel) (by decide +kernel)⟩

/-! ## The first file -/

/-- The place of the registry has a null character only if the directories around it do. -/
theorem registry_parent_hasNull (root : PathName)
    (h : (root.join (PathName.ofString registryPath)).hasNull = true) :
    (root.join (PathName.ofString registryPath)).parent.hasNull = true := by
  have hdown : LeadsDown registryPath := by decide +kernel
  have hparts : pathParts registryPath = ["lib", "core", "network", "api_constants.dart"] := by
    decide +kernel
  have hplain : (pathParts registryPath).any (fun part => part.toList.contains '\x00') = false := by
    rw [hparts]
    decide +kernel
  rw [hdown.join_eq, PathName.hasNull, List.any_append, hplain, Bool.or_false] at h
  rw [hdown.join_eq, PathName.parent, PathName.hasNull,
    List.dropLast_append_of_ne_nil hdown.2.1, List.any_append, h, Bool.true_or]

/-- A conflict that interrupts a run has not been talked about: the question could not be shown. -/
theorem settle_eq_error {path : PathName} {tree left : FileTree} {settled : Session}
    {fault : Markup.Fault}
    (h : (Run.overwritePolicy settings).settle path tree session =
      (.error fault, left, settled)) : left = tree ∧ settled = session := by
  cases hasks : settings.overwriteAll with
  | true =>
    rw [Run.overwritePolicy] at h
    simp only [hasks, if_true] at h
    cases h
  | false =>
    cases hshown : Markup.plain (Operator.overwriteQuestion path) with
    | error other =>
      rw [settle_of_fault hasks hshown] at h
      cases h
      exact ⟨rfl, rfl⟩
    | ok shown =>
      rw [settle_eq hasks, confirmOverwrite_run, hshown] at h
      cases h

/-- Where no file was dealt with, and the run was interrupted, the interruption came before anything
was changed or said. -/
theorem commit_interrupted {interruption : Interruption}
    (hready : (prepare settings source endpoint method).run session =
      (.ok (.ready feature artifacts), asked))
    (hrecorded : Run.recorded settings source endpoint method before session = [])
    (h : (Run.commit settings feature artifacts).run before asked =
      ((.error interruption, after), final)) : after = before ∧ final = asked := by
  obtain ⟨-, content, rest, hfiles⟩ := ready_files hready
  unfold Run.recorded at hrecorded
  rw [hready] at hrecorded
  dsimp only at hrecorded
  rw [commit_eq] at h
  rcases hwrite : writeAllMerged (Run.overwritePolicy settings) settings.outputDirectory
    (Run.files artifacts) before asked with ⟨written, tree, between⟩
  rw [hwrite] at h hrecorded
  rw [hfiles] at hwrite
  rcases writeAllMerged_cons hwrite with ⟨stop, hmerge, rfl⟩ | ⟨outcome, _, _, others, -, -, rfl⟩
  · cases stop with
    | refused path refusal => cases h
    | unreported path refusal =>
      cases h
      exact mergeText_unreported (registry_parent_hasNull settings.outputDirectory) hmerge
    | policy fault =>
      cases h
      cases mergeText_cases hmerge with
      | stopped _ hstop => exact absurd rfl (hstop fault)
      | uncreated _ _ _ hstop => exact absurd rfl (hstop fault)
      | failed _ _ _ hconflict hsettle => exact settle_eq_error hsettle
  · cases hrecorded

/-! ## Runs that end early -/

/-- A run that was not prepared leaves no trace. -/
theorem leavesNoTrace_of_unready
    (hunready : ∀ feature artifacts asked, (prepare settings source endpoint method).run session ≠
      (.ok (.ready feature artifacts), asked))
    (hrun : (generateLayers settings source endpoint method).run before session =
      ((result, after), final)) :
    LeavesNoTrace before after session final
        (Run.recorded settings source endpoint method before session) result ∧
      ∀ report, result = .ok report → report.IsDecided := by
  obtain ⟨hunchanged, hrecorded, hreported⟩ := generateLayers_unready hunready hrun
  rcases hprepare : (prepare settings source endpoint method).run session with ⟨prepared, asked⟩
  have hunasked := unasked_of_prepared hprepare
  -- What is behind the preparation only turns its result into a report.
  have hend : final = asked ∧ ∀ report, result = .ok report → report.IsDecided := by
    rw [generateLayers_eq, hprepare] at hrun
    split at hrun
    · rename_i interruption talked hsame
      cases hsame
      cases hrun
      exact ⟨rfl, fun _ h => by cases h⟩
    · rename_i described message talked hsame
      cases hsame
      cases hrun
      refine ⟨rfl, fun report hreport => ?_⟩
      cases hreport
      exact .inr (.inr ⟨rfl, rfl, Option.some_ne_none _⟩)
    · rename_i described talked hsame
      cases hsame
      cases hrun
      refine ⟨rfl, fun report hreport => ?_⟩
      cases hreport
      exact .inr (.inl ⟨rfl, rfl, rfl⟩)
    · rename_i hsame
      cases hsame
      exact absurd hprepare (hunready _ _ _)
  refine ⟨⟨hunchanged, ?_, hrecorded, hreported⟩, hend.2⟩
  rw [hend.1]
  exact hunasked

/-- **Runs that end early leave no trace**, and every report is decided. -/
theorem generateLayers_early
    (hrun : (generateLayers settings source endpoint method).run before session =
      ((result, after), final)) :
    (EndsEarly method (Run.recorded settings source endpoint method before session) result →
        LeavesNoTrace before after session final
          (Run.recorded settings source endpoint method before session) result) ∧
      ∀ report, result = .ok report → report.IsDecided := by
  -- Only a run that is ready touches files; of these none ends early but by an interruption.
  by_cases hready : ∃ feature artifacts asked,
      (prepare settings source endpoint method).run session =
        (.ok (.ready feature artifacts), asked)
  · obtain ⟨feature, artifacts, asked, hready⟩ := hready
    have hcommit := hrun
    rw [generateLayers_eq, hready] at hcommit
    obtain ⟨hreported, hinterrupted⟩ := commit_result hcommit
    cases result with
    | ok report =>
      obtain ⟨haborted, hreport⟩ := hreported report rfl
      refine ⟨fun hearly => ?_, fun _ hsame => ?_⟩
      · -- No report of a run that came to the writing looks like that.
        exfalso
        cases hearly with
        | declined _ hdeclined =>
          rw [haborted] at hdeclined
          cases hdeclined
        | method _ hmethod =>
          rcases hreport with ⟨-, hnone⟩ | ⟨-, path, refusal, hrefused⟩
          · rw [hnone] at hmethod
            cases hmethod
          · rw [hrefused] at hmethod
            exact (refusedMessage_ne path refusal method (.noBaseUrl "")).1
              (Option.some.inj hmethod)
        | sample _ fault hsample =>
          rcases hreport with ⟨-, hnone⟩ | ⟨-, path, refusal, hrefused⟩
          · rw [hnone] at hsample
            cases hsample
          · rw [hrefused] at hsample
            exact (refusedMessage_ne path refusal method fault).2 (Option.some.inj hsample)
      · cases hsame
        rcases hreport with ⟨hsuccess, hnone⟩ | ⟨hsuccess, path, refusal, hrefused⟩
        · exact .inl ⟨hsuccess, haborted, hnone⟩
        · exact .inr (.inr ⟨hsuccess, haborted, by simp [hrefused]⟩)
    | error interruption =>
      refine ⟨fun hearly => ?_, fun _ h => by cases h⟩
      cases hearly with
      | stage _ hstage =>
        rw [hinterrupted interruption rfl] at hstage
        cases hstage
      | interrupted _ hrecorded =>
        obtain ⟨hafter, hfinal⟩ := commit_interrupted hready hrecorded hcommit
        refine ⟨hafter, ?_, hrecorded, fun _ h => by cases h⟩
        rw [hfinal]
        exact unasked_of_prepared hready
  · obtain ⟨htrace, hdecided⟩ := leavesNoTrace_of_unready
      (fun feature artifacts asked h => hready ⟨feature, artifacts, asked, h⟩) hrun
    exact ⟨fun _ => htrace, hdecided⟩

/-- With a method that is not supported a run beside edited files leaves no trace. -/
theorem unsupported_run_leavesNoTrace : ∃ report after final,
    (generateLayers besideEdits (.text "{}") "http://h/users" "HEAD").run editedTree
        { unread := ["y"] } = ((.ok report, after), final) ∧
      report.error = some (HttpMethod.unsupportedMessage "HEAD") ∧ report.IsDecided ∧
        LeavesNoTrace editedTree after { unread := ["y"] } final
          (Run.recorded besideEdits (.text "{}") "http://h/users" "HEAD" editedTree
            { unread := ["y"] }) (.ok report) := by
  have hparse : HttpMethod.parse? "HEAD" = none := by decide +kernel
  have hprepare : (prepare besideEdits (.text "{}") "http://h/users" "HEAD").run
      { unread := ["y"] } =
        (.ok (.failed none (HttpMethod.unsupportedMessage "HEAD")),
          { unread := ["y"], log := [.error (HttpMethod.unsupportedMessage "HEAD")] }) := by
    rw [prepare, hparse]
    rfl
  rcases hrun : (generateLayers besideEdits (.text "{}") "http://h/users" "HEAD").run editedTree
    { unread := ["y"] } with ⟨⟨result, after⟩, final⟩
  obtain ⟨htrace, hdecided⟩ := generateLayers_early hrun
  rw [generateLayers_eq, hprepare] at hrun
  cases hrun
  exact ⟨_, _, _, rfl, rfl, hdecided _ rfl, htrace (.method _ rfl)⟩

end DartLayers
