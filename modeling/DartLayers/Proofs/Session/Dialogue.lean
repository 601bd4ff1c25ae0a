import DartLayers.Proofs.Steps

/-!
# DartLayers — what a session says about its dialogue

The console shows the questions, the operator's lines are read one by one, and a session keeps both.
A *dialogue* puts them together: every question with the line that was read for it, or with none when
the lines had ended. Whatever talks keeps this account: it adds entries to the console and reads
exactly one line for every question among them.

* **`Session.dialogue`** — the questions between two sessions with their answers.
* **`Session.Talks`** — the account of a talk, closed under composition.
* **`Speaks`** — a computation keeps the account and asks certain questions only.
* **`present_cons`** — entries are presented one by one.
* **`confirm_spec`** — a confirmation is the answer of the last line that it read.
-/

namespace DartLayers

/-! ## Dialogues -/

/-- The questions among entries. -/
def Log.asked (entries : Log) : List String :=
  entries.filterMap fun
    | .ask text => some text
    | _ => none

/-- Questions with the lines that are read for them, one line each. -/
def exchanges : List String → List String → List (String × Option String)
  | [], _ => []
  | text :: texts, lines => (text, lines.head?) :: exchanges texts lines.tail

theorem Log.asked_append (entries others : Log) :
    Log.asked (entries ++ others) = Log.asked entries ++ Log.asked others :=
  List.filterMap_append

theorem exchanges_append (texts others lines : List String) :
    exchanges (texts ++ others) lines =
      exchanges texts lines ++ exchanges others (lines.drop texts.length) := by
  induction texts generalizing lines with
  | nil => simp [exchanges]
  | cons text rest ih =>
    rw [List.cons_append, exchanges, exchanges, ih, List.cons_append, List.drop_tail,
      List.length_cons]

/-- The questions are those that were asked, in order. -/
theorem exchanges_map_fst (texts lines : List String) :
    (exchanges texts lines).map Prod.fst = texts := by
  induction texts generalizing lines with
  | nil => rfl
  | cons text rest ih => rw [exchanges, List.map_cons, ih]

/-- The questions between two sessions, each with the line that was read for it. -/
def Session.dialogue (before after : Session) : List (String × Option String) :=
  exchanges (Log.asked (after.log.drop before.log.length)) before.unread

/-- A session has become another one by giving entries to the console, with one line read for every
question among them. -/
structure Session.Talks (before after : Session) (entries : Log) : Prop where
  log : after.log = before.log ++ entries
  unread : after.unread = before.unread.drop (Log.asked entries).length

namespace Session.Talks

variable {before middle after : Session} {entries others : Log}

theorem refl (session : Session) : session.Talks session [] :=
  ⟨(List.append_nil _).symm, rfl⟩

theorem trans (h₁ : before.Talks middle entries) (h₂ : middle.Talks after others) :
    before.Talks after (entries ++ others) := by
  refine ⟨by rw [h₂.log, h₁.log, List.append_assoc], ?_⟩
  rw [h₂.unread, h₁.unread, List.drop_drop, Log.asked_append, List.length_append]

/-- The dialogue of a talk. -/
theorem dialogue_eq (h : before.Talks after entries) :
    before.dialogue after = exchanges (Log.asked entries) before.unread := by
  rw [Session.dialogue, h.log, List.drop_left]

/-- A talk after another one goes on with the dialogue. -/
theorem dialogue_trans (h₁ : before.Talks middle entries) (h₂ : middle.Talks after others) :
    before.dialogue after = before.dialogue middle ++ middle.dialogue after := by
  rw [(h₁.trans h₂).dialogue_eq, h₁.dialogue_eq, h₂.dialogue_eq, Log.asked_append,
    exchanges_append, ← h₁.unread]

end Session.Talks

/-! ## Computations that talk -/

/-- A computation keeps the account, and it asks only questions of a kind. -/
def Speaks {α : Type} (asks : String → Prop) (talk : Talk α) : Prop :=
  ∀ session : Session, ∃ entries, session.Talks (talk session).2 entries ∧
    ∀ text ∈ Log.asked entries, asks text

namespace Speaks

variable {α β ε : Type} {asks others : String → Prop}

theorem of_eq {talk : Talk α} (h : Speaks asks talk) {session final : Session} {value : α}
    (hrun : talk session = (value, final)) :
    ∃ entries, session.Talks final entries ∧ ∀ text ∈ Log.asked entries, asks text := by
  have hsession := h session
  rwa [hrun] at hsession

theorem mono {talk : Talk α} (h : Speaks asks talk) (himp : ∀ text, asks text → others text) :
    Speaks others talk := by
  intro session
  obtain ⟨entries, htalks, hasked⟩ := h session
  exact ⟨entries, htalks, fun text htext => himp text (hasked text htext)⟩

theorem pure (value : α) : Speaks asks (Pure.pure value : Talk α) :=
  fun session => ⟨[], .refl session, by simp [Log.asked]⟩

theorem bind {talk : Talk α} {next : α → Talk β} (h : Speaks asks talk)
    (hnext : ∀ value, Speaks asks (next value)) : Speaks asks (talk >>= next) := by
  intro session
  obtain ⟨first, hfirst, hasked⟩ := h session
  obtain ⟨second, hsecond, hothers⟩ := hnext (talk session).1 (talk session).2
  refine ⟨first ++ second, hfirst.trans hsecond, fun text htext => ?_⟩
  rw [Log.asked_append, List.mem_append] at htext
  exact htext.elim (hasked text) (hothers text)

theorem lift {talk : Talk α} (h : Speaks asks talk) :
    Speaks asks (liftM talk : ExceptT ε Talk α).run :=
  fun session => h session

/-- A step that says nothing keeps the account. -/
theorem quiet {talk : Talk α} (h : ∀ session, (talk session).2 = session) : Speaks asks talk := by
  intro session
  rw [h]
  exact ⟨[], .refl session, by simp [Log.asked]⟩

theorem ok (value : α) : Speaks asks (Pure.pure value : ExceptT ε Talk α).run :=
  quiet fun _ => rfl

theorem error (fault : ε) : Speaks asks (throw fault : ExceptT ε Talk α).run :=
  quiet fun _ => rfl

theorem result (result : Except ε α) : Speaks asks (liftM result : ExceptT ε Talk α).run :=
  quiet fun _ => by cases result <;> rfl

theorem adapt {δ : Type} {rename : ε → δ} {talk : ExceptT ε Talk α} (h : Speaks asks talk.run) :
    Speaks asks (talk.adapt rename).run :=
  fun session => h session

/-- Steps that may fail keep the account, too. -/
theorem bindExcept {talk : ExceptT ε Talk α} {next : α → ExceptT ε Talk β}
    (h : Speaks asks talk.run) (hnext : ∀ value, Speaks asks (next value).run) :
    Speaks asks (talk >>= next).run := by
  intro session
  obtain ⟨first, hfirst, hasked⟩ := h session
  rw [talk_bind]
  rcases htalk : talk.run session with ⟨fault | value, middle⟩
  · rw [htalk] at hfirst
    exact ⟨first, hfirst, hasked⟩
  · rw [htalk] at hfirst
    obtain ⟨second, hsecond, hothers⟩ := hnext value middle
    refine ⟨first ++ second, hfirst.trans hsecond, fun text htext => ?_⟩
    rw [Log.asked_append, List.mem_append] at htext
    exact htext.elim (hasked text) (hothers text)

theorem say {entries : Log} (h : Log.asked entries = []) : Speaks asks (Session.say entries) :=
  fun session => ⟨entries, ⟨rfl, by rw [h]; rfl⟩, by simp [h]⟩

theorem question {text : String} (h : asks text) : Speaks asks (Session.question text) := by
  intro session
  refine ⟨[.ask text], ?_, by simpa [Log.asked] using h⟩
  rw [Session.question]
  split
  · rename_i hunread
    exact ⟨rfl, by simp [Session.logged, hunread]⟩
  · rename_i line rest hunread
    exact ⟨rfl, by simp [Log.asked, hunread]⟩

end Speaks

/-! ## Presented entries -/

/-- Entries are presented one by one, up to the first one that cannot be shown. -/
theorem present_cons (entry : LogEntry) (rest : Log) (session : Session) :
    (Session.present (entry :: rest)).run session =
      match entry.check with
      | .ok () => (Session.present rest).run (session.logged [entry])
      | .error fault => (.error fault, session) := by
  have hstep : Session.present (entry :: rest) =
      ((do liftExcept entry.check; Session.say [entry] : ExceptT Markup.Fault Talk Unit) >>=
        fun _ => Session.present rest) := rfl
  rw [hstep, talk_bind]
  cases entry.check <;> rfl

/-! ## Confirmations -/

/-- The answer that a dialogue gives to a question: that of the first line that is understood. -/
def answerOf (text : String) (default : Bool) (dialogue : List (String × Option String)) :
    Option Bool :=
  dialogue.findSome? fun (asked, line) =>
    if asked = text then line.bind (Session.readConfirmation default) else none

/-- What has been asked before is no answer if nothing in it is understood. -/
theorem answerOf_append_of_none {text : String} {default : Bool}
    {dialogue others : List (String × Option String)}
    (h : answerOf text default dialogue = none) :
    answerOf text default (dialogue ++ others) = answerOf text default others := by
  rw [answerOf, List.findSome?_append]
  rw [answerOf] at h
  rw [h, Option.none_or, answerOf]

/-- An answer once given stands. -/
theorem answerOf_append_of_some {text : String} {default answer : Bool}
    {dialogue others : List (String × Option String)}
    (h : answerOf text default dialogue = some answer) :
    answerOf text default (dialogue ++ others) = some answer := by
  rw [answerOf, List.findSome?_append]
  rw [answerOf] at h
  rw [h, Option.some_or]

/-- Other questions give no answer. -/
theorem answerOf_of_ne {text : String} {default : Bool} {texts lines : List String}
    (h : ∀ other ∈ texts, other ≠ text) : answerOf text default (exchanges texts lines) = none := by
  rw [answerOf, List.findSome?_eq_none_iff]
  intro exchange hmem
  have hasked := List.mem_map_of_mem (f := Prod.fst) hmem
  rw [exchanges_map_fst] at hasked
  exact if_neg (h exchange.1 hasked)

/-- A confirmation asks one question until a line answers it. -/
theorem confirmFrom_spec {text : String} {default : Bool} {lines unread : List String}
    {answer : Option Bool} {entries : Log}
    (h : Session.confirmFrom text default lines = (unread, answer, entries)) :
    (∀ asked ∈ Log.asked entries, asked = text) ∧
      unread = lines.drop (Log.asked entries).length ∧
      answer = answerOf text default (exchanges (Log.asked entries) lines) := by
  induction lines generalizing unread answer entries with
  | nil =>
    cases h
    simp [Log.asked, exchanges, answerOf]
  | cons line rest ih =>
    rw [Session.confirmFrom] at h
    cases hread : Session.readConfirmation default line with
    | some found =>
      rw [hread] at h
      cases h
      simp [Log.asked, exchanges, answerOf, hread]
    | none =>
      rw [hread] at h
      rcases hrest : Session.confirmFrom text default rest with ⟨left, later, others⟩
      rw [hrest] at h
      cases h
      obtain ⟨hasked, hunread, hanswer⟩ := ih hrest
      -- The rejected line is asked about once more, and it answers nothing.
      have hentries : Log.asked (.ask text :: Session.rejection :: others) =
          text :: Log.asked others := rfl
      rw [hentries]
      refine ⟨by simpa using hasked, by simpa using hunread, ?_⟩
      simpa [exchanges, answerOf, hread] using hanswer

/-- **A confirmation** keeps the account, asks its question only, and gives the answer of the dialogue
that it leads. -/
theorem confirm_spec (text : String) (default : Bool) (session : Session) :
    ∃ entries, session.Talks (Session.confirm text default session).2 entries ∧
      (∀ asked ∈ Log.asked entries, asked = Session.confirmText text default) ∧
      (Session.confirm text default session).1 =
        answerOf (Session.confirmText text default) default
          (session.dialogue (Session.confirm text default session).2) := by
  rcases hfrom : Session.confirmFrom (Session.confirmText text default) default session.unread with
    ⟨unread, answer, entries⟩
  obtain ⟨hasked, hunread, hanswer⟩ := confirmFrom_spec hfrom
  have hconfirm : Session.confirm text default session =
      (answer, { session.logged entries with unread }) := by
    rw [Session.confirm, hfrom]
  rw [hconfirm]
  have htalks : session.Talks { session.logged entries with unread } entries := ⟨rfl, hunread⟩
  exact ⟨entries, htalks, hasked, by rw [htalks.dialogue_eq, hanswer]⟩

theorem Speaks.confirm {asks : String → Prop} {text : String} {default : Bool}
    (h : asks (Session.confirmText text default)) : Speaks asks (Session.confirm text default) := by
  intro session
  obtain ⟨entries, htalks, hasked, -⟩ := confirm_spec text default session
  exact ⟨entries, htalks, fun asked hmem => hasked asked hmem ▸ h⟩

/-- Consent that is not the default was typed. -/
theorem readConfirmation_eq_true {line : String}
    (h : Session.readConfirmation false line = some true) : Text.lower (Text.trim line) = "y" := by
  rw [Session.readConfirmation] at h
  split at h
  · cases h
  · split at h
    · assumption
    · cases h
    · cases h

end DartLayers
