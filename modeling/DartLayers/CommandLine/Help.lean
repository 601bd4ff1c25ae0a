import DartLayers.CommandLine

/-!
# DartLayers — texts of the command line

The usage and the help of the program, and what a command line that is not carried out writes to the
standard streams.

* **`usageText`**, **`helpText`** — the two texts.
* **`CommandStop.streams`** — what a stop writes.
* **`CommandStop.status`** — the exit status of a stop.
-/

namespace DartLayers

/-- Texts written to the standard output and to the standard error. -/
structure Streams where
  output : String := ""
  error : String := ""
  deriving Repr, DecidableEq

/-- The name of the program. -/
def programName : String := "archgen"

/-- The choices of a method, as the usage shows them. -/
def methodChoices : String :=
  "\x7b" ++ ",".intercalate (HttpMethod.all.map HttpMethod.name) ++ "\x7d"

/-- Lines with their line feeds. -/
def joinLines (lines : List String) : String :=
  String.join (lines.map (· ++ "\n"))

/-- The usage of the program. -/
def usageText : String := joinLines [
  "usage: " ++ programName ++ " [-h] [--endpoint ENDPOINT] [--method " ++ methodChoices ++ "]",
  "               [--output OUTPUT] [--project-path PROJECT_PATH]",
  "               [--base-url BASE_URL] [--token TOKEN] [--yes]"]

/-- The options of the program, as the help lists them. -/
def optionsText : String := joinLines [
  "options:",
  "  -h, --help            show this help message and exit",
  "  --endpoint ENDPOINT, -e ENDPOINT",
  "                        API endpoint path or URL to generate code for",
  "  --method " ++ methodChoices ++ ", -m " ++ methodChoices,
  "                        HTTP method (default: GET)",
  "  --output OUTPUT, -o OUTPUT",
  "                        Output directory for generated files (default:",
  "                        ./generated)",
  "  --project-path PROJECT_PATH, -p PROJECT_PATH",
  "                        Flutter project whose pubspec.yaml receives the",
  "                        dependencies",
  "  --base-url BASE_URL   Base URL for a relative endpoint",
  "  --token TOKEN         Authorization value for the sample request",
  "  --yes, -y             Skip the confirmation before files are written"]

/-- The examples of the help. -/
def examplesText : String := joinLines [
  "Examples:",
  "  archgen -e /api/users/profile",
  "  archgen -e https://api.example.com/api/orders -m POST -o ./my_app -p ./my_app"]

/-- The help of the program. -/
def helpText : String := "\n".intercalate [
  usageText,
  "Clean Architecture Generator -- Flutter data/domain layers from an API endpoint\n",
  optionsText,
  examplesText]

namespace CommandStop

/-- What a stop writes: help, or the usage and the fault. -/
def streams : CommandStop → Streams
  | .help => { output := helpText }
  | .fault cause =>
    { error := usageText ++ programName ++ ": error: " ++ cause.message ++ "\n" }

/-- The exit status of a stop. -/
def status : CommandStop → Nat
  | .help => 0
  | .fault _ => 2

/-- The wording of a stop: its exit status. -/
def message (stop : CommandStop) : String :=
  toString stop.status

end CommandStop

end DartLayers
