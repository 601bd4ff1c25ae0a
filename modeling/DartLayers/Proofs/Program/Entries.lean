import DartLayers.Proofs.Run.Entries

/-!
# DartLayers — the entries of a program

A program shows its endpoint before the run and the output directory after one that succeeded, both
put raw between its own words, as the paths are in the questions of the run. So what it was given is
shown escaped exactly if nothing that it comes to show has to be escaped.

* **`Program.ComesTo`** — a program comes to show a text between its own words.
* **`runProgram_raw`** — the entries of a program.
* **`runs_showEscaped_iff`** — when runs and programs show every text escaped.
-/

namespace DartLayers

namespace Program

/-! ## Programs that run -/

/-- A command line is read, and it gives an endpoint, a method and, in an environment, settings to run
for. -/
def Analyzes (environment : Environment) (arguments : List String) (settings : Settings)
    (endpoint : String) (method : OptionValue) : Prop :=
  ∃ line, arguments.isEmpty = false ∧ readCommandLine arguments = .ok line ∧
    line.endpoint.nonempty? = some endpoint ∧
      Settings.ofEnvironment environment (overrides line) = .ok settings ∧ line.method = method

/-- The entry in front of the endpoint. -/
def title : LogEntry := .print "[bold]Clean Architecture Generator[/bold]"

/-- The entry in front of the output directory. -/
def completed : LogEntry :=
  .print "\n[bold green]Code generation completed successfully![/bold green]"

/-- A program comes to show a text between its own words: the endpoint at once; a path when the run
comes to a question about it; and the output directory when the run has succeeded. The run is made
only if the endpoint could be shown and the method has a text. -/
inductive ComesTo (environment : Environment) (reply : Reply) (arguments : List String)
    (before : FileTree) (session : Session) : Inset → String → Session → Prop where
  | endpoint {settings endpoint method}
      (hline : Analyzes environment arguments settings endpoint method) :
      ComesTo environment reply arguments before session .endpoint endpoint (session.logged [title])
  | question {settings endpoint method name inset text asked entry}
      (hline : Analyzes environment arguments settings endpoint method)
      (hshown : Inset.endpoint.entry endpoint = .ok entry) (hmethod : methodText method = .ok name)
      (hcomes : Run.ComesTo settings (.endpoint reply) endpoint name before
        (session.logged [title, entry]) inset text asked) :
      ComesTo environment reply arguments before session inset text asked
  | directory {settings endpoint method name entry report after generated}
      (hline : Analyzes environment arguments settings endpoint method)
      (hshown : Inset.endpoint.entry endpoint = .ok entry) (hmethod : methodText method = .ok name)
      (hrun : (generateLayers settings (.endpoint reply) endpoint name).run before
        (session.logged [title, entry]) = ((.ok report, after), generated))
      (hsuccess : report.success = true) :
      ComesTo environment reply arguments before session .directory settings.outputDirectory.text
        (generated.logged [completed])

theorem Analyzes.unique {environment : Environment} {arguments : List String}
    {settings others : Settings} {endpoint other : String} {method option : OptionValue}
    (h : Analyzes environment arguments settings endpoint method)
    (hother : Analyzes environment arguments others other option) :
    settings = others ∧ endpoint = other ∧ method = option := by
  obtain ⟨line, -, hread, hendpoint, hsettings, rfl⟩ := h
  obtain ⟨found, -, hfound, hnamed, hgiven, rfl⟩ := hother
  cases hread.symm.trans hfound
  cases hendpoint.symm.trans hnamed
  cases hsettings.symm.trans hgiven
  exact ⟨rfl, rfl, rfl⟩

variable {environment : Environment} {reply : Reply} {arguments : List String} {settings : Settings}
  {endpoint : String} {method : OptionValue} {before : FileTree} {session : Session}

/-- A line behind one that can be shown is shown with it, or the program is interrupted. -/
theorem present_line {inset : Inset} (hline : inset ≠ .target) {first : LogEntry}
    (hfirst : first.check = .ok ()) (text : String) (session : Session) :
    (present [first, .print (inset.markup text)]).run session =
      match inset.entry text with
      | .ok entry => (.ok (), session.logged [first, entry])
      | .error fault => (.error (.interruption (.markup fault)), session.logged [first]) := by
  have hadapt : (present [first, .print (inset.markup text)]).run session =
      (((Session.present [first, .print (inset.markup text)]).run session).1.mapError
          fun fault => .interruption (.markup fault),
        ((Session.present [first, .print (inset.markup text)]).run session).2) := rfl
  have hentry : inset.entry text =
      (Markup.check (inset.markup text)).map fun _ => .print (inset.markup text) := by
    cases inset with
    | target => exact absurd rfl hline
    | endpoint => rw [Inset.entry]; cases Markup.check (Inset.endpoint.markup text) <;> rfl
    | directory => rw [Inset.entry]; cases Markup.check (Inset.directory.markup text) <;> rfl
  rw [hadapt, present_cons, hfirst, hentry]
  dsimp only
  rw [present_cons, LogEntry.check]
  cases Markup.check (inset.markup text) with
  | error fault => rfl
  | ok shown =>
    have htwo : (session.logged [first]).logged [.print (inset.markup text)] =
        session.logged [first, .print (inset.markup text)] := by
      simp [Session.logged]
    dsimp only [Except.map]
    rw [htwo]
    rfl

theorem check_title : title.check = .ok () := by
  decide +kernel

theorem check_completed : completed.check = .ok () := by
  decide +kernel

/-- Presenting entries is a step of the work that leaves the files alone. -/
theorem present_work (entries : Log) (tree : FileTree) (session : Session) :
    (liftM (present entries).run >>= fun shown => liftExcept shown :
        ExceptT ProgramStop Work Unit).run tree session =
      ((((present entries).run session).1, tree), ((present entries).run session).2) := by
  have hlift : (liftM (present entries).run :
      ExceptT ProgramStop Work (Except ProgramStop Unit)).run tree session =
        ((.ok ((present entries).run session).1, tree), ((present entries).run session).2) := rfl
  rw [work_bind, hlift]
  rcases (present entries).run session with ⟨stop | _, shown⟩ <;> rfl

/-- The session in which a run for an endpoint ends. -/
theorem runEndpoint_session :
    ((runEndpoint settings reply endpoint method).run before session).2 =
      match Inset.endpoint.entry endpoint, methodText method with
      | .error _, _ => session.logged [title]
      | .ok entry, .error _ => session.logged [title, entry]
      | .ok entry, .ok name =>
        match (generateLayers settings (.endpoint reply) endpoint name).run before
            (session.logged [title, entry]) with
        | ((.error _, _), generated) => generated
        | ((.ok report, _), generated) =>
          if report.success then
            match Inset.directory.entry settings.outputDirectory.text with
            | .ok line => generated.logged [completed, line]
            | .error _ => generated.logged [completed]
          else generated := by
  have hopening : opening endpoint = [title, .print (Inset.endpoint.markup endpoint)] := by
    rw [Inset.markup_endpoint]
    rfl
  have hclosing : ∀ report : RunResult, closing settings report =
      if report.success then
        [completed, .print (Inset.directory.markup settings.outputDirectory.text)]
      else [] := by
    intro report
    rw [Inset.markup_directory]
    rfl
  -- Each stage either stops the program, and the session stays as it is, or hands it on.
  rw [runEndpoint, ← bind_assoc, work_bind, present_work, hopening,
    present_line (by decide) check_title]
  cases Inset.endpoint.entry endpoint with
  | error fault => rfl
  | ok entry =>
    dsimp only
    rw [work_bind]
    cases methodText method with
    | error stop => rfl
    | ok name =>
      have hok : (liftExcept (.ok name : Except ProgramStop String) : ExceptT ProgramStop Work String).run before
          (session.logged [title, entry]) =
        ((.ok name, before), session.logged [title, entry]) := rfl
      rw [hok]
      dsimp only
      rw [work_bind]
      have hadapt : ((generateLayers settings (.endpoint reply) endpoint name).adapt
            ProgramStop.interruption).run before (session.logged [title, entry]) =
          match (generateLayers settings (.endpoint reply) endpoint name).run before
              (session.logged [title, entry]) with
          | ((result, tree), session) => ((result.mapError .interruption, tree), session) := rfl
      rw [hadapt]
      rcases (generateLayers settings (.endpoint reply) endpoint name).run before
        (session.logged [title, entry]) with ⟨⟨interruption | report, after⟩, generated⟩
      · rfl
      · dsimp only [Except.mapError]
        rw [present_work, hclosing]
        split
        · rw [present_line (by decide) check_completed]
          cases Inset.directory.entry settings.outputDirectory.text <;> rfl
        · rfl

/-- A step of the work goes on where the one before it has left. -/
theorem work_then {α β : Type} (step : Work α) (next : α → Work β) (tree : FileTree)
    (session : Session) :
    (step >>= next).run tree session =
      (next (step tree session).1.1).run (step tree session).1.2 (step tree session).2 := rfl

/-- A program that has something to run for ends as its run does. -/
theorem runProgram_session (h : Analyzes environment arguments settings endpoint method) :
    ((runProgram environment reply arguments).run before session).2 =
      ((runEndpoint settings reply endpoint method).run before session).2 := by
  obtain ⟨line, hsome, hread, hendpoint, hsettings, rfl⟩ := h
  rw [runProgram, if_neg (by rw [hsome]; decide), hread]
  show (StateT.run (runCommand environment reply line) before session).2 = _
  rw [runCommand, hendpoint]
  dsimp only
  rw [hsettings]
  dsimp only
  rw [work_then]
  generalize (runEndpoint settings reply endpoint line.method).run before session = ended
  obtain ⟨⟨stop | _, tree⟩, final⟩ := ended <;> rfl

/-- A program that has nothing to run for says at most that the endpoint is missing. -/
theorem runProgram_idle
    (h : ∀ settings endpoint method, ¬ Analyzes environment arguments settings endpoint method) :
    session.Says LogEntry.IsGuarded ((runProgram environment reply arguments).run before session).2 := by
  rw [runProgram]
  split
  · exact .refl session
  · rename_i hsome
    split
    · exact .refl session
    · rename_i line hread
      rw [runCommand]
      split
      · exact .logged session (List.forall_mem_singleton.2 (.own (.line
          (List.mem_cons_of_mem _ (List.mem_cons_of_mem _ List.mem_cons_self)))))
      · rename_i endpoint hendpoint
        split
        · exact .refl session
        · rename_i settings hsettings
          exact absurd ⟨line, by simpa using hsome, hread, hendpoint, hsettings, rfl⟩
            (h settings endpoint line.method)

/-- Where a program comes to show a text, in terms of the run that it makes. -/
theorem comesTo_iff (hline : Analyzes environment arguments settings endpoint method) {inset : Inset}
    {text : String} {asked : Session} :
    ComesTo environment reply arguments before session inset text asked ↔
      (inset = .endpoint ∧ text = endpoint ∧ asked = session.logged [title]) ∨
      ∃ entry name, Inset.endpoint.entry endpoint = .ok entry ∧ methodText method = .ok name ∧
        (Run.ComesTo settings (.endpoint reply) endpoint name before
            (session.logged [title, entry]) inset text asked ∨
          ∃ report after generated,
            (generateLayers settings (.endpoint reply) endpoint name).run before
                (session.logged [title, entry]) = ((.ok report, after), generated) ∧
              report.success = true ∧ inset = .directory ∧
                text = settings.outputDirectory.text ∧ asked = generated.logged [completed]) := by
  constructor
  · intro h
    cases h with
    | endpoint hother =>
      obtain ⟨-, rfl, -⟩ := hline.unique hother
      exact .inl ⟨rfl, rfl, rfl⟩
    | question hother hshown hmethod hcomes =>
      obtain ⟨rfl, rfl, rfl⟩ := hline.unique hother
      exact .inr ⟨_, _, hshown, hmethod, .inl hcomes⟩
    | directory hother hshown hmethod hrun hsuccess =>
      obtain ⟨rfl, rfl, rfl⟩ := hline.unique hother
      exact .inr ⟨_, _, hshown, hmethod, .inr ⟨_, _, _, hrun, hsuccess, rfl, rfl, rfl⟩⟩
  · rintro (⟨rfl, rfl, rfl⟩ | ⟨entry, name, hshown, hmethod, hcomes |
      ⟨report, after, generated, hrun, hsuccess, rfl, rfl, rfl⟩⟩)
    · exact .endpoint hline
    · exact .question hline hshown hmethod hcomes
    · exact .directory hline hshown hmethod hrun hsuccess

/-- Where a program comes to show a text when its run has come to a result. -/
theorem comesTo_iff_of_run (hline : Analyzes environment arguments settings endpoint method)
    {entry : LogEntry} (hshown : Inset.endpoint.entry endpoint = .ok entry) {name : String}
    (hmethod : methodText method = .ok name) {result : Except Interruption RunResult}
    {after : FileTree} {generated : Session}
    (hended : (generateLayers settings (.endpoint reply) endpoint name).run before
      (session.logged [title, entry]) = ((result, after), generated))
    {inset : Inset} {text : String} {asked : Session} :
    ComesTo environment reply arguments before session inset text asked ↔
      ((inset = .endpoint ∧ text = endpoint ∧ asked = session.logged [title]) ∨
        Run.ComesTo settings (.endpoint reply) endpoint name before (session.logged [title, entry])
          inset text asked) ∨
      (∃ report, result = .ok report ∧ report.success = true) ∧ inset = .directory ∧
        text = settings.outputDirectory.text ∧ asked = generated.logged [completed] := by
  rw [comesTo_iff hline, or_assoc]
  refine or_congr_right ⟨?_, ?_⟩
  · rintro ⟨other, option, hother, hoption, hcomes | ⟨report, left, final, hrun, hsuccess, hplace⟩⟩
    · cases hshown.symm.trans hother
      cases hmethod.symm.trans hoption
      exact .inl hcomes
    · cases hshown.symm.trans hother
      cases hmethod.symm.trans hoption
      rw [hended] at hrun
      cases hrun
      exact .inr ⟨⟨report, rfl, hsuccess⟩, hplace⟩
  · rintro (hcomes | ⟨⟨report, rfl, hsuccess⟩, hplace⟩)
    · exact ⟨entry, name, hshown, hmethod, .inl hcomes⟩
    · exact ⟨entry, name, hshown, hmethod, .inr ⟨report, after, generated, hended, hsuccess, hplace⟩⟩

/-- A run for an endpoint puts the endpoint, the paths in its questions, and the output directory raw
between the program's words. -/
theorem runEndpoint_raw (hline : Analyzes environment arguments settings endpoint method) :
    ShowsRaw (ComesTo environment reply arguments before session) session
      ((runEndpoint settings reply endpoint method).run before session).2 := by
  have hown : title.IsGuarded ∧ completed.IsGuarded :=
    ⟨.own (.line List.mem_cons_self), .own (.line (List.mem_cons_of_mem _ List.mem_cons_self))⟩
  have hopening := ShowsRaw.line .endpoint endpoint hown.1 session
  rw [runEndpoint_session]
  -- The insets are followed stage by stage; one that cannot be shown ends the program.
  cases hshown : Inset.endpoint.entry endpoint with
  | error fault =>
    rw [hshown] at hopening
    refine hopening.congr fun inset text asked => ?_
    rw [comesTo_iff hline, hshown]
    simp
  | ok entry =>
    rw [hshown] at hopening
    dsimp only at hopening
    -- The endpoint could be shown, so it is not the inset that stops the program.
    have hgoes : ∀ inset text before fault, (inset = Inset.endpoint ∧ text = endpoint ∧
        before = session.logged [title]) → inset.entry text = .error fault → False := by
      rintro _ _ _ fault ⟨rfl, rfl, rfl⟩ hfault
      cases hshown.symm.trans hfault
    cases hmethod : methodText method with
    | error stop =>
      refine hopening.congr fun inset text asked => ?_
      rw [comesTo_iff hline, hmethod]
      simp
    | ok name =>
      dsimp only
      have hrun := generateLayers_raw settings (.endpoint reply) endpoint name before
        (session.logged [title, entry])
      rcases hended : (generateLayers settings (.endpoint reply) endpoint name).run before
        (session.logged [title, entry]) with ⟨⟨interruption | report, after⟩, generated⟩
      · rw [hended] at hrun
        dsimp only at hrun ⊢
        refine (hopening.trans hrun fun _ _ _ _ hfirst hfault =>
          (hgoes _ _ _ _ hfirst hfault).elim).congr fun inset text asked => ?_
        rw [comesTo_iff_of_run hline hshown hmethod hended]
        simp
      · rw [hended] at hrun
        dsimp only at hrun ⊢
        have hbefore := hopening.trans hrun fun _ _ _ _ hfirst hfault =>
          (hgoes _ _ _ _ hfirst hfault).elim
        split
        · -- Only a run that succeeded shows its directory.
          rename_i hsuccess
          have hclosing := ShowsRaw.line .directory settings.outputDirectory.text hown.2 generated
          refine (hbefore.trans hclosing fun inset text asked fault hfirst hfault => ?_).congr
            fun inset text asked => ?_
          · rcases hfirst with hfirst | hcomes
            · exact (hgoes _ _ _ _ hfirst hfault).elim
            · obtain ⟨trouble, herror⟩ := generateLayers_unshown hcomes hfault
              rw [hended] at herror
              cases herror
          · rw [comesTo_iff_of_run hline hshown hmethod hended]
            simp [hsuccess]
        · rename_i hsuccess
          refine hbefore.congr fun inset text asked => ?_
          rw [comesTo_iff_of_run hline hshown hmethod hended]
          simp [hsuccess]

/-- **A program puts what it was given raw between its words**, and all its other entries are
guarded. -/
theorem runProgram_raw (environment : Environment) (reply : Reply) (arguments : List String)
    (before : FileTree) (session : Session) :
    ShowsRaw (ComesTo environment reply arguments before session) session
      ((runProgram environment reply arguments).run before session).2 := by
  by_cases hline : ∃ settings endpoint method,
      Analyzes environment arguments settings endpoint method
  · obtain ⟨settings, endpoint, method, hline⟩ := hline
    rw [runProgram_session hline]
    exact runEndpoint_raw hline
  · have hnone : ∀ settings endpoint method,
        ¬ Analyzes environment arguments settings endpoint method :=
      fun settings endpoint method h => hline ⟨settings, endpoint, method, h⟩
    refine (ShowsRaw.of_guarded (runProgram_idle hnone)).congr fun inset text asked => ?_
    rw [iff_false]
    intro hcomes
    cases hcomes with
    | endpoint h => exact hnone _ _ _ h
    | question h => exact hnone _ _ _ h
    | directory h => exact hnone _ _ _ h

/-- The paths that a program asks about do not end in a backslash. -/
theorem last_of_comesTo {text : String} {asked : Session}
    (h : ComesTo environment reply arguments before session .target text asked) :
    ∃ front last, text.toList = front ++ [last] ∧ last ≠ '\\' := by
  cases h with
  | question hline hshown hmethod hcomes => exact DartLayers.last_of_comesTo hcomes

end Program

/-! ## Escaped texts -/

/-- **Runs and programs show every text escaped** exactly if each text that they come to show between
their own words needs no escape. -/
theorem runs_showEscaped_iff (settings : Settings) (source : SampleSource) (endpoint method : String)
    (environment : Environment) (reply : Reply) (arguments : List String) (before : FileTree)
    (session : Session) :
    (ShowsEscaped (Run.ComesTo settings source endpoint method before session) session
        ((generateLayers settings source endpoint method).run before session).2 ↔
      ∀ inset text asked, Run.ComesTo settings source endpoint method before session inset text asked →
        Markup.escape text = text) ∧
    (ShowsEscaped (Program.ComesTo environment reply arguments before session) session
        ((runProgram environment reply arguments).run before session).2 ↔
      ∀ inset text asked, Program.ComesTo environment reply arguments before session inset text asked →
        Markup.escape text = text) := by
  constructor
  · exact (generateLayers_raw settings source endpoint method before session).showsEscaped_iff
      fun _ _ hcomes => last_of_comesTo hcomes
  · exact (Program.runProgram_raw environment reply arguments before session).showsEscaped_iff
      fun _ _ hcomes => Program.last_of_comesTo hcomes

/-- A program whose endpoint has a tag in it. -/
def bracketedArguments : List String := ["-e", "http://h/us[red]ers"]

theorem bracketed_comesTo (reply : Reply) (before : FileTree) (session : Session) :
    Program.ComesTo [] reply bracketedArguments before session .endpoint "http://h/us[red]ers"
      (session.logged [Program.title]) := by
  have hline : ∃ settings method,
      Program.Analyzes [] bracketedArguments settings "http://h/us[red]ers" method :=
    ⟨_, _, _, rfl, rfl, rfl, rfl, rfl⟩
  obtain ⟨settings, method, hline⟩ := hline
  exact .endpoint hline

/-- A tag in the endpoint is not shown escaped, but acts as markup. -/
theorem bracketed_endpoint_not_escaped :
    ¬ ShowsEscaped
        (Program.ComesTo [] (.response 404 "") bracketedArguments (.below [] []) { unread := [] })
        { unread := [] }
        ((runProgram [] (.response 404 "") bracketedArguments).run (.below [] []) { unread := [] }).2 ∧
      [Program.title, .print "Analyzing endpoint: http://h/us[red]ers"] <+:
          ((runProgram [] (.response 404 "") bracketedArguments).run (.below [] [])
            { unread := [] }).2.log ∧
        Markup.plain "Analyzing endpoint: http://h/us[red]ers" =
          .ok "Analyzing endpoint: http://h/users" := by
  have hcomes := bracketed_comesTo (.response 404 "") (.below [] []) { unread := [] }
  have hraw := Program.runProgram_raw [] (.response 404 "") bracketedArguments (.below [] [])
    { unread := [] }
  have hentry : Inset.endpoint.entry "http://h/us[red]ers" =
      .ok (.print "Analyzing endpoint: http://h/us[red]ers") := by decide +kernel
  refine ⟨fun hescaped => ?_, hraw.shown _ _ _ hcomes _ hentry, by decide +kernel⟩
  have hnothing := (hraw.showsEscaped_iff fun _ _ h => Program.last_of_comesTo h).1 hescaped _ _ _
    hcomes
  revert hnothing
  decide +kernel

end DartLayers
