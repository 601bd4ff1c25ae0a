import DartLayers.Markup.Literal
import DartLayers.Text.Quoted

/-!
# DartLayers — handlers

A tag whose name starts with an at sign names a handler instead of a style. Its parameters are a
name and arguments in brackets, or arguments alone; the arguments are a literal expression. They are
read when the tag is closed.

* **`Handler.check`** — whether parameters can be read.
-/

namespace DartLayers.Markup

/-- Why the parameters of a handler cannot be read: the arguments are not well-formed, or they have
no value. -/
inductive HandlerFault where
  | form (arguments parameters : String) (fault : Literal.Fault)
  | value (parameters : String) (fault : Literal.ValueFault)
  deriving Repr, DecidableEq

/-- The wording of a handler's fault. -/
def HandlerFault.message : HandlerFault → String
  | .form arguments parameters fault =>
    "error parsing " ++ Text.quoted arguments ++ " in " ++ Text.quoted parameters ++ "; " ++
      fault.message
  | .value parameters fault => "error parsing " ++ Text.quoted parameters ++ "; " ++ fault.message

namespace Handler

/-- A character of a handler's name. -/
def isNamePart (c : Char) : Bool :=
  Text.isWordCharacter c || c == '.'

/-- The arguments in parameters: those in brackets behind a name, on one line; none behind a name
alone; and otherwise all of the text. -/
def argumentsOf (parameters : List Char) : List Char :=
  match parameters.dropWhile isNamePart with
  | [] => ['(', ')']
  | '(' :: rest =>
    if rest.getLast? == some ')' && !rest.contains '\n' then '(' :: rest else parameters
  | _ => parameters

/-- Checks that parameters can be read. No parameters are no arguments. -/
def check (parameters : List Char) : Except HandlerFault Unit :=
  if parameters.isEmpty then .ok ()
  else
    let arguments := argumentsOf (Text.trimWhile Text.isBlank parameters)
    match Literal.check arguments with
    | .ok () => .ok ()
    | .error (.form fault) =>
      .error (.form (String.ofList arguments) (String.ofList parameters) fault)
    | .error (.value fault) => .error (.value (String.ofList parameters) fault)

end Handler

end DartLayers.Markup
