import DartLayers.Manifest.Update
import DartLayers.Merge
import DartLayers.Run.Preparation

/-!
# DartLayers — a run

A run generates the files for one endpoint: it is prepared, the rendered files are merged into the
output directory, and the dependencies are registered in the project's manifest. Failures are
reported on the console and in the result; an interruption leaves no result.

What is told about all runs is told about the trees of `FileTree` and the samples that are read as
`readJson` reads them: nothing is refused for want of permission or of space, and half of a pair of
code units in a sample is U+FFFD.

* **`RunResult`** — what a run reports.
* **`generateLayers`** — a run.
-/

namespace DartLayers

/-- What a run reports: whether it succeeded, whether the operator declined, the feature, the
outcomes by path in the order of writing, the dependencies that were added, and the failure. -/
structure RunResult where
  success : Bool := false
  aborted : Bool := false
  feature : Option Feature := none
  outcomes : List (String × Outcome) := []
  dependenciesAdded : List String := []
  error : Option String := none

/-- A part of a run that may change files. -/
abbrev Work := StateT FileTree Talk

namespace Run

/-- The operator settles conflicts, unless the settings consent to all of them. -/
def overwritePolicy (settings : Settings) : WritePolicy Markup.Fault Session where
  settle path tree session :=
    if settings.overwriteAll then (.ok (.bool true), tree, session)
    else
      let (answer, session) := (Operator.confirmOverwrite path).run session
      (answer.map Json.bool, tree, session)
  announce outcome path session := session.logged [outcome.entry path]

/-- Writes the files of a run. -/
def writeArtifacts (settings : Settings) (artifacts : List Artifact) :
    Work (Written Markup.Fault) := fun tree session =>
  let (written, tree, session) := writeAllMerged (overwritePolicy settings)
    settings.outputDirectory (artifacts.map fun artifact => (artifact.path, artifact.content))
    tree session
  ((written, tree), session)

/-- The label of an outcome in the table. -/
def outcomeLabel : Outcome → String
  | .created => "Created"
  | .unchanged => "Unchanged"
  | .overwritten => "Overwritten"
  | .skipped => "Skipped"

/-- The rows that count the outcomes; outcomes without a file have none. -/
def outcomeRows (outcomes : List (String × Outcome)) : List (String × Json) :=
  Outcome.all.filterMap fun outcome =>
    let count := outcomes.countP fun entry => decide (entry.2 = outcome)
    if count = 0 then none else some (outcomeLabel outcome, .string (toString count))

/-- The table of the outcomes; there is none without outcomes. -/
def outcomeTable (outcomes : List (String × Outcome)) : Log :=
  if outcomes.isEmpty then [] else Log.summary "Files" (outcomeRows outcomes)

/-- The entries that report the names of added dependencies. -/
def addedEntries (required : List (String × String)) (added : List String) : Log :=
  if added.isEmpty then [.info ("All required dependencies already exist in " ++ manifestName)]
  else (added.map fun name => LogEntry.info
      ("Adding dependency: " ++ name ++ ": " ++ (required.lookup name).getD "")) ++
    [.success ("Updated " ++ manifestName ++ " with required dependencies")]

/-- The entry that reports why a manifest was not updated; a value that does not exist interrupts
the run instead. -/
def updateFaultEntry : UpdateFault → Except Interruption LogEntry
  | .missing path =>
    .ok (.warning (missingManifestMessage path ++ ". Skipping dependency update."))
  | .refused path refusal =>
    .ok (.error ("Error updating " ++ manifestName ++ ": " ++ refusal.message path))
  | .manifest (.fault fault) =>
    .ok (.error ("Error updating " ++ manifestName ++ ": " ++ fault.message))
  | .manifest (.value fault) => .error (.manifest fault)

/-- Registers the required dependencies in a project's manifest and reports on it. -/
def registerDependencies (settings : Settings) (project : PathName) :
    ExceptT Interruption Work (List String) := do
  match updateManifest project settings.requiredDependencies (← get) with
  | .ok (added, tree) =>
    set tree
    Session.say (addedEntries settings.requiredDependencies added)
    return added
  | .error fault =>
    let entry ← liftExcept (updateFaultEntry fault)
    Session.say [entry]
    return []

/-- Registers the required dependencies if the settings name a project. -/
def registerIfAsked (settings : Settings) : ExceptT Interruption Work (List String) := do
  match settings.project with
  | none => return []
  | some project => registerDependencies settings project

/-- The result of a run whose files have been written. -/
def finish (settings : Settings) (feature : Feature) (outcomes : List (String × Outcome)) :
    ExceptT Interruption Work RunResult := do
  let dependenciesAdded ← registerIfAsked settings
  Session.say (outcomeTable outcomes ++
    [.success ("Generated clean architecture for endpoint: " ++ feature.path)])
  return { success := true, feature := some feature, outcomes, dependenciesAdded }

/-- Writes the files of a run and registers the dependencies. -/
def commit (settings : Settings) (feature : Feature) (artifacts : List Artifact) :
    ExceptT Interruption Work RunResult := do
  let written ← writeArtifacts settings artifacts
  match written.stop with
  | none => finish settings feature written.outcomes
  | some (.refused path refusal) => do
    let message := refusedMessage path refusal
    Session.say (outcomeTable written.outcomes ++ [.error message])
    return { feature := some feature, outcomes := written.outcomes, error := some message }
  | some (.unreported path refusal) => throw (.file path refusal)
  | some (.policy fault) => throw (.markup fault)

end Run

/-- A run for an endpoint. -/
def generateLayers (settings : Settings) (source : SampleSource) (endpoint method : String) :
    ExceptT Interruption Work RunResult := do
  match ← (prepare settings source endpoint method).run with
  | .error interruption => throw interruption
  | .ok (.failed feature message) => return { feature, error := some message }
  | .ok (.declined feature) => return { aborted := true, feature := some feature }
  | .ok (.ready feature artifacts) => Run.commit settings feature artifacts

end DartLayers
