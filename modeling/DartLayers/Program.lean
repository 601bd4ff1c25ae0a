import DartLayers.CommandLine.Help
import DartLayers.Run

/-!
# DartLayers — the program

The program reads its command line, takes settings from the environment and the options, and runs
once.

* **`ProgramStop`** — what ends the program early.
* **`runProgram`** — the program, with the reply that its request will get.
-/

namespace DartLayers

/-- What ends the program early: the command line, the settings, a method that is given without a
text, or an interruption of the run. -/
inductive ProgramStop where
  | command (stop : CommandStop)
  | settings (fault : Settings.Fault)
  | emptiedMethod
  | interruption (interruption : Interruption)

/-- The wording of a stop. -/
def ProgramStop.message : ProgramStop → String
  | .command stop => stop.message
  | .settings fault => fault.message
  | .emptiedMethod => "'list' object has no attribute 'strip'"
  | .interruption cause => cause.message

/-- What a program came to: its early end, if it had one, and what it wrote to the standard
streams. -/
structure ProgramEnd where
  stop : Option ProgramStop := none
  streams : Streams := {}

namespace Program

/-- The value of a directory: an empty one is none. -/
def directoryOf (value : OptionValue) : Json :=
  match value.nonempty? with
  | some path => .string path
  | none => .null

/-- The value of a text. One of which nothing is left is no text, which the settings refuse. -/
def textOf : OptionValue → Json
  | .absent => .null
  | .emptied => .array []
  | .text value => .string value

/-- The values that a command line gives to settings. Only the switch itself decides about the
confirmation. -/
def overrides (line : CommandLine) : FieldValues := [
  ("output_dir", directoryOf line.output),
  ("project_path", directoryOf line.projectPath),
  ("base_url", textOf line.baseUrl),
  ("auth_token", textOf line.token),
  ("assume_yes", if line.yes then .bool true else .null)]

/-- The entry for a command line without an endpoint. -/
def endpointMissing : LogEntry :=
  .print ("[bold red]Error:[/bold red] Endpoint is required. " ++
    "Use -e or --endpoint to specify the API endpoint.")

/-- The entries before a run. -/
def opening (endpoint : String) : Log :=
  [.print "[bold]Clean Architecture Generator[/bold]", .print ("Analyzing endpoint: " ++ endpoint)]

/-- The entries after a run that succeeded. -/
def closing (settings : Settings) (result : RunResult) : Log :=
  if result.success then
    [.print "\n[bold green]Code generation completed successfully![/bold green]",
      .print ("Files generated in: " ++ settings.outputDirectory.text)]
  else []

/-- Gives entries to the console; one that it cannot show interrupts the run. -/
def present (entries : Log) : ExceptT ProgramStop Talk Unit :=
  (Session.present entries).adapt fun fault => .interruption (.markup fault)

/-- The text of a method. -/
def methodText : OptionValue → Except ProgramStop String
  | .text value => .ok value
  | .absent | .emptied => .error .emptiedMethod

/-- Runs for an endpoint. A method of which nothing is left is found out only here. -/
def runEndpoint (settings : Settings) (reply : Reply) (endpoint : String) (method : OptionValue) :
    ExceptT ProgramStop Work Unit := do
  liftExcept (← (present (opening endpoint)).run)
  let method ← liftExcept (methodText method)
  let result ← (generateLayers settings (.endpoint reply) endpoint method).adapt .interruption
  liftExcept (← (present (closing settings result)).run)

/-- Carries out a command line. -/
def runCommand (environment : Environment) (reply : Reply) (line : CommandLine) :
    Work ProgramEnd := do
  match line.endpoint.nonempty? with
  | none =>
    Session.say [endpointMissing]
    return { streams := { output := usageText } }
  | some endpoint =>
    match Settings.ofEnvironment environment (overrides line) with
    | .error fault => return { stop := some (.settings fault) }
    | .ok settings =>
      match ← (runEndpoint settings reply endpoint line.method).run with
      | .ok () => return {}
      | .error stop => return { stop := some stop }

end Program

/-- The program. Without arguments it shows its help. -/
def runProgram (environment : Environment) (reply : Reply) (arguments : List String) :
    Work ProgramEnd := do
  if arguments.isEmpty then return { streams := { output := helpText } }
  else match readCommandLine arguments with
    | .error stop => return { stop := some (.command stop), streams := stop.streams }
    | .ok line => Program.runCommand environment reply line

end DartLayers
