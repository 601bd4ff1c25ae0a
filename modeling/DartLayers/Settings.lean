import DartLayers.Settings.Value

/-!
# DartLayers — settings of a run

Settings are checked when they are made: every refused field is reported, in the order of the
fields. They come from values by field name, or from the environment with values that take
precedence over it.

* **`Settings.ofValues`** — settings from values.
* **`Settings.ofEnvironment`** — settings from the environment and overrides.
-/

namespace DartLayers

/-- The dependencies that generated code needs, each with its version. -/
def defaultDependencies : List (String × String) := [
  ("dio", "^5.3.2"),
  ("dartz", "^0.10.1"),
  ("equatable", "^2.0.5"),
  ("get", "^4.6.6"),
  ("connectivity_plus", "^4.0.2")]

/-- The settings of a run: where files go, which project gets the dependencies, how a sample is
requested, and which questions are not asked. -/
structure Settings where
  outputDirectory : PathName := PathName.ofString "./generated"
  project : Option PathName := none
  baseUrl : Option String := none
  authToken : Option String := none
  timeout : Int := 30
  assumeYes : Bool := false
  overwriteAll : Bool := false
  requiredDependencies : List (String × String) := defaultDependencies
  deriving Repr, DecidableEq

/-- Values by the names of fields; the first value of a field counts. -/
abbrev FieldValues := List (String × Json)

/-- Variables of the environment. -/
abbrev Environment := List (String × String)

namespace Settings

/-- A field's value, or its default if it has none. -/
def field {α : Type} (values : FieldValues) (name : String) (read : Read α) (default : α) :
    Checked α :=
  match values.lookup name with
  | some value => Checked.ofField name (read value)
  | none => .ok default

/-- The versions of dependencies, which must be texts. -/
def readVersions (name : String) : List (String × Json) → Checked (List (String × String))
  | [] => .ok []
  | (dependency, version) :: rest =>
    let first := Checked.ofField (name ++ "." ++ dependency) (readText version)
    Checked.apply (first.map fun version others => (dependency, version) :: others)
      (readVersions name rest)

/-- The field of the required dependencies. -/
def dependencies (values : FieldValues) (name : String) : Checked (List (String × String)) :=
  match values.lookup name with
  | some (.object members) => readVersions name members
  | some _ => .error [⟨name, .mapping⟩]
  | none => .ok defaultDependencies

/-- Settings from values. -/
def ofValues (values : FieldValues) : Checked Settings :=
  Checked.apply (Checked.apply (Checked.apply (Checked.apply (Checked.apply (Checked.apply
    (Checked.apply (Checked.apply (.ok Settings.mk)
      (field values "output_dir" readPath (PathName.ofString "./generated")))
      (field values "project_path" (readOrNull readPath) none))
      (field values "base_url" (readOrNull readText) none))
      (field values "auth_token" (readOrNull readText) none))
      (field values "timeout" readPositive 30))
      (field values "assume_yes" readTruth false))
      (field values "overwrite_all" readTruth false))
      (dependencies values "required_dependencies")

/-- Why there are no settings: a timeout in the environment that is no whole number, or refused
fields. -/
inductive Fault where
  | timeout (text : String) (fault : Text.IntegerFault)
  | fields (faults : List FieldFault)
  deriving Repr, DecidableEq

/-- The wording of a fault. -/
def Fault.message : Fault → String
  | .timeout text .malformed => Text.malformedIntegerMessage 10 text
  | .timeout _ (.tooLong digits) => Text.longIntegerMessage digits
  | .fields faults => FieldFault.messages faults

/-- A variable that is set and not empty. -/
def setVariable? (environment : Environment) (name : String) : Option String :=
  (environment.lookup name).filter (· ≠ "")

/-- The fields that variables give as text, with the names of the variables. -/
def textVariables : List (String × String) := [
  ("output_dir", "ARCHGEN_OUTPUT_DIR"),
  ("project_path", "ARCHGEN_PROJECT_PATH"),
  ("base_url", "ARCHGEN_BASE_URL"),
  ("auth_token", "ARCHGEN_TOKEN")]

/-- The timeout that the environment gives. -/
def environmentTimeout (environment : Environment) : Except Fault FieldValues :=
  match setVariable? environment "ARCHGEN_TIMEOUT" with
  | none => .ok []
  | some text =>
    match Text.readInteger 10 text.toList with
    | .ok timeout => .ok [("timeout", .int timeout)]
    | .error fault => .error (.timeout text fault)

/-- The values that the environment gives. -/
def environmentValues (environment : Environment) : Except Fault FieldValues := do
  let texts := textVariables.filterMap fun (field, name) =>
    (setVariable? environment name).map fun text => (field, Json.string text)
  return texts ++ (← environmentTimeout environment)

/-- Whether a value is null. -/
def isNull : Json → Bool
  | .null => true
  | _ => false

/-- Settings from the environment and from overrides, which take precedence unless they are null. A
timeout in the environment must be a whole number even where it is overridden. -/
def ofEnvironment (environment : Environment) (overrides : FieldValues) :
    Except Fault Settings := do
  let values ← environmentValues environment
  match ofValues (overrides.filter (fun (_, value) => !isNull value) ++ values) with
  | .ok settings => return settings
  | .error faults => throw (.fields faults)

end Settings

end DartLayers
