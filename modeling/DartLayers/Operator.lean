import DartLayers.PathName
import DartLayers.Plan
import DartLayers.Session

/-!
# DartLayers — questions to the operator

Every question that a run asks. When the operator's lines have ended, a question falls back to its
default and a confirmation is declined.
-/

namespace DartLayers.Operator

/-- The first of two texts unless it is empty. -/
def orDefault (text default : String) : String :=
  if text = "" then default else text

/-- Asks for the base address of a relative endpoint. Blanks around an answer and slashes at its end
are dropped; a blank answer is the default. -/
def askBaseUrl (default : String) : Talk String := do
  let asked := "Enter the base URL for the API (" ++ Markup.dropHidden default ++ "): "
  match ← Session.question asked with
  | none => return default
  | some line =>
    let answer := if line = "" then default else Text.trim line
    return Text.dropEndSlashes (Text.trim (orDefault answer default))

/-- Asks for a text that may be missing. -/
def askText (text : String) : Talk (Option String) := do
  return ((← Session.question text).map Text.trim).filter (· ≠ "")

/-- Asks whether the endpoint needs an authorization, and for the header's value if it does. -/
def askAuthorization : Talk (Option String) := do
  match ← Session.confirm "Does this endpoint require authentication?" false with
  | some true => askText "Enter the Authorization header value (e.g. Bearer <token>): "
  | _ => return none

/-- Asks for the body of the sample request. -/
def askSampleBody (method : HttpMethod) : Talk (Option String) :=
  askText ("Sample JSON body for the " ++ method.name ++ " request (Enter to send none): ")

/-- A text with blanks up to a width. -/
def padded (width : Nat) (text : String) : String :=
  text ++ String.ofList (List.replicate (width - text.length) ' ')

/-- The entry that shows a planned file. -/
def plannedEntry (layer : Layer) (path : String) : LogEntry :=
  .print ("  [dim]" ++ padded 24 layer.name ++ "[/dim] " ++ path)

/-- Shows the planned files and asks whether to write them. A path is read as markup, which it may
fail to be. -/
def confirmGeneration (planned : List (Layer × String)) : ExceptT Markup.Fault Talk Bool := do
  let heading := "[bold]" ++ toString planned.length ++ " files will be generated:[/bold]"
  Session.present (.print heading :: planned.map fun (layer, path) => plannedEntry layer path)
  return (← Session.confirm "Generate these files?" true).getD false

/-- The question whether a file may be replaced, as markup. -/
def overwriteQuestion (path : PathName) : String :=
  "File " ++ path.text ++ " already contains different content. Overwrite?"

/-- Asks whether a file may be replaced. The path is read as markup, which it may fail to be. -/
def confirmOverwrite (path : PathName) : ExceptT Markup.Fault Talk Bool := do
  let text ← liftExcept (Markup.plain (overwriteQuestion path))
  return (← Session.confirm text false).getD false

end DartLayers.Operator
