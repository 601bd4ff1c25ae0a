import DartLayers.Console
import DartLayers.Endpoint.Method
import DartLayers.Json

/-!
# DartLayers — the session of a run

A session is what a run shares with its operator and with the endpoint: the lines that the operator
has typed and that have not been read, what the console has been given, and the requests that were
sent. Files are no part of it, so that what only talks cannot change one.

* **`Session.say`** — gives entries to the console that it can show.
* **`Session.present`** — gives entries to the console as far as it can show them.
* **`Session.question`** — asks, and reads one line.
* **`Session.confirm`** — asks until the answer is yes or no, or until the lines end.
-/

namespace DartLayers

/-- A request to an endpoint. A body of null is sent as no body. -/
structure SampleRequest where
  url : String
  method : HttpMethod
  headers : List (String × String)
  body : Json

/-- A request that was sent, with the seconds that its response may take. -/
structure SentRequest where
  request : SampleRequest
  readTimeout : Int

/-- The seconds that a connection may take. -/
def SentRequest.connectTimeout : Int := 10

/-- Whether redirections are followed. -/
def SentRequest.followsRedirects : Bool := true

/-- What a run shares with its operator and with the endpoint. -/
structure Session where
  unread : List String
  log : Log := []
  requests : List SentRequest := []

/-- A part of a run that talks. -/
abbrev Talk := StateM Session

namespace Session

/-- A session with more entries on the console. -/
def logged (session : Session) (entries : Log) : Session :=
  { session with log := session.log ++ entries }

/-- Gives entries to the console, which has to be able to show them. -/
def say (entries : Log) : Talk Unit :=
  modify fun session => session.logged entries

/-- Gives entries to the console, up to the first one that it cannot show. -/
def present (entries : Log) : ExceptT Markup.Fault Talk Unit :=
  entries.forM fun entry => do
    liftExcept entry.check
    say [entry]

/-- Asks, and reads the next line; at the end of the lines there is none. -/
def question (text : String) : Talk (Option String) := fun session =>
  match session.unread with
  | [] => (none, session.logged [.ask text])
  | line :: rest => (some line, { session.logged [.ask text] with unread := rest })

/-- The answer that a line gives to a question: yes, no, or none that is understood. An empty line
gives the default. -/
def readConfirmation (default : Bool) (line : String) : Option Bool :=
  if line = "" then some default
  else match Text.lower (Text.trim line) with
    | "y" => some true
    | "n" => some false
    | _ => none

/-- The rejection of an answer that is neither yes nor no. -/
def rejection : LogEntry := .invalid "[prompt.invalid]Please enter Y or N"

/-- The lines that are left, the answer, and the entries of asking until a line answers. -/
def confirmFrom (text : String) (default : Bool) :
    List String → List String × Option Bool × Log
  | [] => ([], none, [.ask text])
  | line :: rest =>
    match readConfirmation default line with
    | some answer => (rest, some answer, [.ask text])
    | none =>
      let (unread, answer, entries) := confirmFrom text default rest
      (unread, answer, .ask text :: rejection :: entries)

/-- The question with the ways to answer it. -/
def confirmText (text : String) (default : Bool) : String :=
  text ++ " [y/n] (" ++ (if default then "y" else "n") ++ "): "

/-- Asks until a line answers yes or no; at the end of the lines there is no answer. -/
def confirm (text : String) (default : Bool) : Talk (Option Bool) := fun session =>
  let (unread, answer, entries) := confirmFrom (confirmText text default) default session.unread
  (answer, { session.logged entries with unread })

end Session

end DartLayers
