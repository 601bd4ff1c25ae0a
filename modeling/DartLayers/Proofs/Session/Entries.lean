import DartLayers.Proofs.Session.Dialogue

/-!
# DartLayers — what a session gives to the console

A session only ever adds entries to the console. A law about entries that every step keeps holds of
all the entries that a computation adds.

* **`Session.Says`** — the entries between two sessions keep a law.
* **`Utters`** — a computation adds entries that keep a law.
* **`Utters.present`** — entries that are presented.
-/

namespace DartLayers

variable {law others : LogEntry → Prop}

/-! ## Sessions -/

/-- A session has become another one, and the entries that were added keep a law. -/
def Session.Says (law : LogEntry → Prop) (before after : Session) : Prop :=
  ∃ entries, after.log = before.log ++ entries ∧ ∀ entry ∈ entries, law entry

namespace Session.Says

variable {before middle after : Session}

theorem refl (session : Session) : Says law session session :=
  ⟨[], (List.append_nil _).symm, by simp⟩

theorem of_log (h : after.log = before.log) : Says law before after :=
  ⟨[], h.trans (List.append_nil _).symm, by simp⟩

theorem logged (session : Session) {entries : Log} (h : ∀ entry ∈ entries, law entry) :
    Says law session (session.logged entries) :=
  ⟨entries, rfl, h⟩

theorem trans (h₁ : Says law before middle) (h₂ : Says law middle after) :
    Says law before after := by
  obtain ⟨first, hfirst, hlaw⟩ := h₁
  obtain ⟨second, hsecond, hothers⟩ := h₂
  refine ⟨first ++ second, by rw [hsecond, hfirst, List.append_assoc], fun entry hentry => ?_⟩
  exact (List.mem_append.1 hentry).elim (hlaw entry) (hothers entry)

theorem mono (h : Says law before after) (himp : ∀ entry, law entry → others entry) :
    Says others before after := by
  obtain ⟨entries, hlog, hlaw⟩ := h
  exact ⟨entries, hlog, fun entry hentry => himp entry (hlaw entry hentry)⟩

/-- What is on the console stays there. -/
theorem prefix_log (h : Says law before after) : before.log <+: after.log := by
  obtain ⟨entries, hlog, -⟩ := h
  exact ⟨entries, hlog.symm⟩

end Session.Says

/-! ## Computations -/

/-- A computation adds entries that keep a law. -/
def Utters {α : Type} (law : LogEntry → Prop) (talk : Talk α) : Prop :=
  ∀ session : Session, session.Says law (talk session).2

namespace Utters

variable {α β ε : Type}

theorem of_eq {talk : Talk α} (h : Utters law talk) {session final : Session} {value : α}
    (hrun : talk session = (value, final)) : session.Says law final := by
  have hsession := h session
  rwa [hrun] at hsession

theorem pure (value : α) : Utters law (Pure.pure value : Talk α) :=
  fun session => .refl session

theorem bind {talk : Talk α} {next : α → Talk β} (h : Utters law talk)
    (hnext : ∀ value, Utters law (next value)) : Utters law (talk >>= next) :=
  fun session => (h session).trans (hnext (talk session).1 (talk session).2)

theorem lift {talk : Talk α} (h : Utters law talk) :
    Utters law (liftM talk : ExceptT ε Talk α).run :=
  fun session => h session

theorem ok (value : α) : Utters law (Pure.pure value : ExceptT ε Talk α).run :=
  fun session => .refl session

theorem error (fault : ε) : Utters law (throw fault : ExceptT ε Talk α).run :=
  fun session => .refl session

theorem result (result : Except ε α) : Utters law (liftM result : ExceptT ε Talk α).run :=
  fun session => by cases result <;> exact .refl session

theorem adapt {δ : Type} {rename : ε → δ} {talk : ExceptT ε Talk α} (h : Utters law talk.run) :
    Utters law (talk.adapt rename).run :=
  fun session => h session

theorem bindExcept {talk : ExceptT ε Talk α} {next : α → ExceptT ε Talk β}
    (h : Utters law talk.run) (hnext : ∀ value, Utters law (next value).run) :
    Utters law (talk >>= next).run := by
  intro session
  have hfirst := h session
  rw [talk_bind]
  rcases htalk : talk.run session with ⟨fault | value, middle⟩
  · rwa [htalk] at hfirst
  · rw [htalk] at hfirst
    exact hfirst.trans (hnext value middle)

theorem say {entries : Log} (h : ∀ entry ∈ entries, law entry) : Utters law (Session.say entries) :=
  fun session => .logged session h

theorem question {text : String} (h : law (.ask text)) : Utters law (Session.question text) := by
  intro session
  rw [Session.question]
  split
  · exact .logged session (by simpa using h)
  · exact ⟨[.ask text], rfl, by simpa using h⟩

/-- A confirmation asks its question, and rejects what is no answer. -/
theorem confirm {text : String} {default : Bool} (h : law (.ask (Session.confirmText text default)))
    (hrejection : law Session.rejection) : Utters law (Session.confirm text default) := by
  have hentries : ∀ lines : List String, ∀ entry ∈
      (Session.confirmFrom (Session.confirmText text default) default lines).2.2, law entry := by
    intro lines
    induction lines with
    | nil => simpa [Session.confirmFrom] using h
    | cons line rest ih =>
      rw [Session.confirmFrom]
      split
      · simpa using h
      · exact List.forall_mem_cons.2 ⟨h, List.forall_mem_cons.2 ⟨hrejection, ih⟩⟩
  exact fun session => ⟨_, rfl, hentries session.unread⟩

end Utters

theorem Utters.present {entries : Log} (h : ∀ entry ∈ entries, law entry) :
    Utters law (Session.present entries).run := by
  intro session
  induction entries generalizing session with
  | nil => exact .refl session
  | cons entry rest ih =>
    rw [List.forall_mem_cons] at h
    show session.Says law ((Session.present (entry :: rest)).run session).2
    rw [present_cons]
    split
    · exact (Session.Says.logged session (by simpa using h.1)).trans (ih h.2 _)
    · exact .refl session

end DartLayers
