import DartLayers.Proofs.Merge.Series
import DartLayers.Proofs.Session.Dialogue

/-!
# DartLayers — consent to replacing files

The operator settles the conflicts of a run one by one. A file is replaced only after the question
that names it was answered by a line that says yes, and no line answers for two files. When the lines
have ended there is no consent.

* **`Consented`** — an exchange that consents to replacing a file.
* **`confirmOverwrite_spec`** — consent comes from such an exchange.
* **`mergeText_consented`**, **`writeAllMerged_consented`** — so it is for one file, and for several.
* **`mergeText_silent`**, **`writeAllMerged_silent`** — a conflict is skipped when the lines have
  ended.
-/

namespace DartLayers

/-- An exchange that consents to replacing the file at a path: it asks about the path, and the line
that was read says yes. -/
def Consented (exchange : String × Option String) (path : PathName) : Prop :=
  ∃ shown line, Markup.plain (Operator.overwriteQuestion path) = .ok shown ∧
    exchange = (Session.confirmText shown false, some line) ∧ Text.lower (Text.trim line) = "y"

/-- A yes that is not the default is the line of an exchange. -/
theorem exists_line_of_answer {text : String} {dialogue : List (String × Option String)}
    (h : answerOf text false dialogue = some true) :
    ∃ line, (text, some line) ∈ dialogue ∧ Text.lower (Text.trim line) = "y" := by
  obtain ⟨⟨asked, line⟩, hmem, hanswer⟩ := List.exists_of_findSome?_eq_some h
  dsimp only at hanswer
  split at hanswer
  · rename_i hasked
    subst hasked
    cases line with
    | none => cases hanswer
    | some line => exact ⟨line, hmem, readConfirmation_eq_true hanswer⟩
  · cases hanswer

variable {path : PathName} {content : String} {tree after : FileTree}
  {session settled final : Session}

/-- A question about a path is asked if it can be shown. -/
theorem confirmOverwrite_run (path : PathName) (session : Session) :
    (Operator.confirmOverwrite path).run session =
      match Markup.plain (Operator.overwriteQuestion path) with
      | .error fault => (.error fault, session)
      | .ok shown => (.ok ((Session.confirm shown false session).1.getD false),
          (Session.confirm shown false session).2) := by
  rw [Operator.confirmOverwrite, talk_bind]
  cases Markup.plain (Operator.overwriteQuestion path) <;> rfl

/-- **Consent comes from an exchange** about the path, and there is none when the lines have
ended. -/
theorem confirmOverwrite_spec {answer : Except Markup.Fault Bool}
    (h : (Operator.confirmOverwrite path).run session = (answer, settled)) :
    ∃ entries, session.Talks settled entries ∧
      (answer = .ok true → ∃ exchange ∈ session.dialogue settled, Consented exchange path) ∧
      (session.unread = [] → answer ≠ .ok true) := by
  rw [confirmOverwrite_run] at h
  cases hshown : Markup.plain (Operator.overwriteQuestion path) with
  | error fault =>
    rw [hshown] at h
    cases h
    exact ⟨[], .refl _, (fun h => by cases h), fun _ h => by cases h⟩
  | ok shown =>
    rw [hshown] at h
    dsimp only at h
    obtain ⟨entries, htalks, -, hanswer⟩ := confirm_spec shown false session
    rcases hconfirm : Session.confirm shown false session with ⟨reply, confirmed⟩
    rw [hconfirm] at h htalks hanswer
    cases h
    refine ⟨entries, htalks, fun hyes => ?_, fun hunread hyes => ?_⟩
    · have hreply : reply = some true := by
        cases reply with
        | none => cases hyes
        | some value => simpa using hyes
      obtain ⟨line, hmem, hline⟩ := exists_line_of_answer (hanswer.symm.trans hreply)
      exact ⟨_, hmem, shown, line, hshown, rfl, hline⟩
    · rw [Session.confirm, hunread, Session.confirmFrom] at hconfirm
      cases hconfirm
      cases hyes

/-! ## Files of a run -/

section

variable {settings : Settings} (hasks : settings.overwriteAll = false)

include hasks

/-- The operator settles a conflict, and nobody else. -/
theorem settle_eq (path : PathName) (tree : FileTree) (session : Session) :
    (Run.overwritePolicy settings).settle path tree session =
      ((((Operator.confirmOverwrite path).run session).1.map Json.bool), tree,
        ((Operator.confirmOverwrite path).run session).2) := by
  simp only [Run.overwritePolicy, hasks, Bool.false_eq_true, if_false]
  rfl

omit hasks in
/-- Announcing an outcome asks nothing. -/
theorem talks_announce (settings : Settings) (outcome : Outcome) (path : PathName)
    (session : Session) :
    session.Talks ((Run.overwritePolicy settings).announce outcome path session)
        [outcome.entry path] ∧ Log.asked [outcome.entry path] = [] := by
  have hquiet : Log.asked [outcome.entry path] = [] := by cases outcome <;> rfl
  exact ⟨⟨rfl, by rw [hquiet]; rfl⟩, hquiet⟩

/-- What is said while a conflict is settled is a dialogue, and a consent is an exchange of it. -/
theorem settle_spec {answer : Except Markup.Fault Json} {left : FileTree}
    (h : (Run.overwritePolicy settings).settle path tree session = (answer, left, final)) :
    ∃ entries, session.Talks final entries ∧
      (answer = .ok (.bool true) → ∃ exchange ∈ session.dialogue final, Consented exchange path) := by
  rw [settle_eq hasks] at h
  rcases hasked : (Operator.confirmOverwrite path).run session with ⟨reply, settled⟩
  obtain ⟨entries, htalks, hyes, -⟩ := confirmOverwrite_spec hasked
  rw [hasked] at h
  cases h
  refine ⟨entries, htalks, fun hanswer => hyes ?_⟩
  cases reply with
  | error fault => cases hanswer
  | ok value =>
    cases hanswer
    rfl

/-- A file is replaced only with consent. -/
theorem mergeText_consented {result : Except (WriteStop Markup.Fault) Outcome}
    (h : mergeText (Run.overwritePolicy settings) path content tree session =
      (result, after, final)) :
    ∃ entries, session.Talks final entries ∧
      (result = .ok .overwritten → ∃ exchange ∈ session.dialogue final,
        Consented exchange path) := by
  cases mergeText_cases h with
  | stopped | created | uncreated | unchanged => exact ⟨[], .refl _, fun h => by cases h⟩
  -- Only a conflict asks, and only a yes replaces the file.
  | failed _ _ _ _ hsettle | skipped _ _ _ _ hsettle | unwritten _ _ _ _ hsettle =>
    obtain ⟨entries, htalks, -⟩ := settle_spec hasks hsettle
    exact ⟨entries, htalks, fun h => by cases h⟩
  | overwritten _ _ _ _ hsettle =>
    obtain ⟨entries, htalks, hyes⟩ := settle_spec hasks hsettle
    exact ⟨entries, htalks, fun _ => hyes rfl⟩

/-- When the lines have ended a conflict is settled without consent, if the question can be shown. -/
theorem settle_of_shown (tree : FileTree) {shown : String}
    (hshown : Markup.plain (Operator.overwriteQuestion path) = .ok shown)
    (hunread : session.unread = []) :
    ∃ settled, (Run.overwritePolicy settings).settle path tree session =
      (.ok (.bool false), tree, settled) ∧ settled.unread = [] := by
  have hconfirm : Session.confirm shown false session =
      (none, { session.logged [.ask (Session.confirmText shown false)] with unread := [] }) := by
    rw [Session.confirm, hunread, Session.confirmFrom]
  refine ⟨{ session.logged [.ask (Session.confirmText shown false)] with unread := [] }, ?_, rfl⟩
  rw [settle_eq hasks, confirmOverwrite_run, hshown]
  dsimp only
  rw [hconfirm]
  rfl

/-- A conflict whose question cannot be shown stops the work. -/
theorem settle_of_fault {fault : Markup.Fault}
    (hshown : Markup.plain (Operator.overwriteQuestion path) = .error fault) :
    (Run.overwritePolicy settings).settle path tree session = (.error fault, tree, session) := by
  rw [settle_eq hasks, confirmOverwrite_run, hshown]
  rfl

/-- **When the lines have ended a conflict is skipped** exactly if the question can be shown. -/
theorem mergeText_silent
    (hconflict : encounter (ε := Markup.Fault) tree path content = .ok .conflict)
    (hunread : session.unread = []) :
    (mergeText (Run.overwritePolicy settings) path content tree session).1 =
      match Markup.plain (Operator.overwriteQuestion path) with
      | .ok _ => .ok .skipped
      | .error fault => .error (.policy fault) := by
  rw [mergeText, hconflict]
  dsimp only
  rw [settleConflict]
  cases hshown : Markup.plain (Operator.overwriteQuestion path) with
  | error fault => rw [settle_of_fault hasks hshown]
  | ok shown =>
    obtain ⟨settled, hsettle, -⟩ := settle_of_shown hasks tree hshown hunread
    rw [hsettle]
    simp only [consents, Bool.false_eq_true, if_false]

variable {files rest : List (String × String)} {root : PathName} {written : Written Markup.Fault}

/-- **Files are replaced only with consent**, each with an exchange of its own. -/
theorem writeAllMerged_consented
    (h : writeAllMerged (Run.overwritePolicy settings) root files tree session =
      (written, after, final)) :
    ∃ entries, session.Talks final entries ∧
      ∃ consents, consents.Sublist (session.dialogue final) ∧
        List.Forall₂
          (fun entry exchange =>
            Consented exchange (root.join (PathName.ofString (Prod.fst entry))))
          (written.outcomes.filter (·.2 = .overwritten)) consents := by
  induction files generalizing tree session written with
  | nil =>
    cases h
    exact ⟨[], .refl _, [], List.nil_sublist _, .nil⟩
  | cons file rest ih =>
    obtain ⟨path, content⟩ := file
    rcases writeAllMerged_cons h with
      ⟨stop, hmerge, rfl⟩ | ⟨outcome, middle, settled, others, hmerge, hrest, rfl⟩
    · obtain ⟨entries, htalks, -⟩ := mergeText_consented hasks hmerge
      exact ⟨entries, htalks, [], List.nil_sublist _, .nil⟩
    · obtain ⟨first, hfirst, hyes⟩ := mergeText_consented hasks hmerge
      obtain ⟨hannounce, hquiet⟩ :=
        talks_announce settings outcome (root.join (PathName.ofString path)) settled
      obtain ⟨second, hsecond, consents, hsub, hconsents⟩ := ih hrest
      -- The lines that this file took come before those of the others, so no line is counted twice.
      have hdialogue : session.dialogue final = session.dialogue settled ++
          ((Run.overwritePolicy settings).announce outcome (root.join (PathName.ofString path))
            settled).dialogue final := by
        rw [hfirst.dialogue_trans (hannounce.trans hsecond), hannounce.dialogue_trans hsecond,
          hannounce.dialogue_eq, hquiet]
        rfl
      refine ⟨_, hfirst.trans (hannounce.trans hsecond), ?_⟩
      rw [hdialogue]
      by_cases hover : outcome = .overwritten
      · obtain ⟨exchange, hmem, hconsented⟩ := hyes (by rw [hover])
        refine ⟨exchange :: consents, (List.singleton_sublist.2 hmem).append hsub, ?_⟩
        rw [List.filter_cons_of_pos (by simpa using hover)]
        exact .cons hconsented hconsents
      · refine ⟨consents, hsub.trans (List.sublist_append_right _ _), ?_⟩
        rw [List.filter_cons_of_neg (by simpa using hover)]
        exact hconsents

/-- When the lines have ended before a file that is in conflict, it is skipped, exactly if the question
about it can be shown. -/
theorem writeAllMerged_silent {name : String} {outcomes : List (String × Outcome)}
    {middle : FileTree}
    (hfiles : writeAllMerged (Run.overwritePolicy settings) root files tree session =
      (⟨outcomes, none⟩, middle, settled))
    (hunread : settled.unread = [])
    (hconflict : encounter (ε := Markup.Fault) middle (root.join (PathName.ofString name)) content =
      .ok .conflict)
    (h : writeAllMerged (Run.overwritePolicy settings) root (files ++ (name, content) :: rest)
      tree session = (written, after, final)) :
    written.outcomes[files.length]? = some (name, .skipped) ↔
      ∃ shown, Markup.plain (Operator.overwriteQuestion (root.join (PathName.ofString name))) =
        .ok shown := by
  have hlength : outcomes.length = files.length := (writeAllMerged_outcomes hfiles).2 rfl
  have hsilent := mergeText_silent hasks hconflict hunread
  rw [writeAllMerged_append, hfiles] at h
  dsimp only at h
  rcases hrest : writeAllMerged (Run.overwritePolicy settings) root ((name, content) :: rest)
    middle settled with ⟨others, ends, talked⟩
  rw [hrest] at h
  cases h
  dsimp only
  -- The entry of the file is the first one of what is written behind the others.
  rw [← hlength, List.getElem?_append_right (Nat.le_refl _), Nat.sub_self]
  rcases writeAllMerged_cons hrest with
    ⟨stop, hmerge, rfl⟩ | ⟨outcome, next, between, later, hmerge, -, rfl⟩
  · -- The work has stopped, so the question cannot be shown.
    rw [hmerge] at hsilent
    split at hsilent
    · cases hsilent
    · rename_i fault hfault
      simp [hfault]
  · rw [hmerge] at hsilent
    split at hsilent
    · rename_i shown hshown
      cases hsilent
      simp [hshown]
    · cases hsilent

end

end DartLayers
