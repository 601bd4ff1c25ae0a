import DartLayers.Run

/-!
# DartLayers — computations taken apart

A computation that may fail is a sequence of steps; a result of the whole comes from a result of
each step. These are the equations and inversions by which runs are read step by step.

* **`exists_ok_of_bind`** — steps that may fail.
* **`talk_bind`**, **`exists_ok_of_talk`** — steps that may fail and talk.
* **`work_bind`** — steps that may change files, too.
-/

namespace DartLayers

section

variable {ε α β : Type}

/-- A sequence of steps that came through came through each of them. -/
theorem exists_ok_of_bind {x : Except ε α} {next : α → Except ε β} {result : β}
    (h : x >>= next = .ok result) : ∃ value, x = .ok value ∧ next value = .ok result := by
  cases x with
  | error fault => cases h
  | ok value => exact ⟨value, rfl, h⟩

/-- A step that fails ends the talk; else the next one goes on. -/
theorem talk_bind (x : ExceptT ε Talk α) (next : α → ExceptT ε Talk β) (session : Session) :
    (x >>= next).run session =
      match x.run session with
      | (.error fault, session) => (.error fault, session)
      | (.ok value, session) => (next value).run session := by
  rw [ExceptT.run_bind]
  rcases hx : x.run session with ⟨fault | value, middle⟩
  · simp [bind, StateT.bind, hx]
    rfl
  · simp [bind, StateT.bind, hx]

/-- A talk without failures comes through. -/
theorem talk_lift (talk : Talk α) (session : Session) :
    (liftM talk : ExceptT ε Talk α).run session =
      (.ok (talk.run session).1, (talk.run session).2) := rfl

/-- A talk without failures, as a step of one that may fail. -/
theorem ok_of_lift {talk : Talk α} {session final : Session} {value : α}
    (h : (liftM talk : ExceptT ε Talk α).run session = (.ok value, final)) :
    talk session = (value, final) := by
  rw [talk_lift] at h
  cases h
  rfl

/-- What comes through does so whatever failures are called. -/
theorem ok_of_adapt {δ : Type} {rename : ε → δ} {talk : ExceptT ε Talk α}
    {session final : Session} {value : α}
    (h : (talk.adapt rename).run session = (.ok value, final)) :
    talk.run session = (.ok value, final) := by
  have hadapt : (talk.adapt rename).run session =
      ((talk.run session).1.mapError rename, (talk.run session).2) := rfl
  rw [hadapt] at h
  rcases htalk : talk.run session with ⟨fault | found, after⟩
  · rw [htalk] at h
    cases h
  · rw [htalk] at h
    cases h
    rfl

/-- A talk that came through came through each of its steps. -/
theorem exists_ok_of_talk {x : ExceptT ε Talk α} {next : α → ExceptT ε Talk β}
    {session final : Session} {result : β}
    (h : (x >>= next).run session = (.ok result, final)) :
    ∃ value middle, x.run session = (.ok value, middle) ∧
      (next value).run middle = (.ok result, final) := by
  rw [talk_bind] at h
  split at h
  · cases h
  · rename_i value middle hx
    exact ⟨value, middle, hx, h⟩

/-- A step that fails ends the work; else the next one goes on. -/
theorem work_bind (x : ExceptT ε Work α) (next : α → ExceptT ε Work β) (tree : FileTree)
    (session : Session) :
    (x >>= next).run tree session =
      match x.run tree session with
      | ((.error fault, tree), session) => ((.error fault, tree), session)
      | ((.ok value, tree), session) => (next value).run tree session := by
  rw [ExceptT.run_bind]
  rcases hx : x.run tree session with ⟨⟨fault | value, middle⟩, between⟩
  · simp [bind, StateT.bind, hx]
    rfl
  · simp [bind, StateT.bind, hx]

end

end DartLayers
