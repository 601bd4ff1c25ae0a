import DartLayers.Dart.Literal
import DartLayers.Json.Display
import DartLayers.Text.Casing

/-!
# DartLayers — templates of generated files

A template is a list of lines. A line is literal text with values put into it; lines may depend on a
condition and may repeat for the items of a list. It is rendered with a context, which binds names
to JSON values. A value that the context lacks is a fault wherever it is used, never empty text.

* **`Operand`** — what an expression denotes: a value, or the fault of a missing one.
* **`Part`**, **`Line`** — the parts of a line, and the lines.
* **`Line.renderAll`** — the text of a template in a context.
-/

namespace DartLayers

/-- Why a template cannot be rendered. -/
inductive TemplateFault where
  | notFound (path : String)
  | undefined (name : String)
  | noMember (owner key : String)
  | notText (kind : String)
  | notIterable (kind : String)
  deriving Repr, DecidableEq

/-- The wording of a fault. -/
def TemplateFault.message : TemplateFault → String
  | .notFound path => path
  | .undefined name => "'" ++ name ++ "' is undefined"
  | .noMember owner key => "'" ++ owner ++ "' has no attribute '" ++ key ++ "'"
  | .notText kind => "expected string or bytes-like object, got '" ++ kind ++ "'"
  | .notIterable kind => "'" ++ kind ++ "' object is not iterable"

/-! ## Expressions -/

/-- Names bound to values; the first binding of a name counts. -/
abbrev Context := List (String × Json)

/-- An expression of a template: a name of the context, a member of an object, or a fixed list of
texts. -/
inductive Expr where
  | name (name : String)
  | member (owner : Expr) (key : String)
  | texts (items : List String)

/-- What an expression denotes: a value, or the fault that arises when the missing value is used. -/
inductive Operand where
  | value (value : Json)
  | missing (fault : TemplateFault)

/-- How a message names the owner of a missing member. -/
def ownerName : Json → String
  | .null => "None"
  | value => value.typeName ++ " object"

/-- The operand that an expression denotes. Looking into a missing value is a fault already. -/
def Expr.eval (context : Context) : Expr → Except TemplateFault Operand
  | .name key =>
    match context.lookup key with
    | some found => .ok (.value found)
    | none => .ok (.missing (.undefined key))
  | .member owner key => do
    match ← owner.eval context with
    | .missing fault => .error fault
    | .value object =>
      match object.member? key with
      | some found => .ok (.value found)
      | none => .ok (.missing (.noMember (ownerName object) key))
  | .texts items => .ok (.value (.array (items.map .string)))

/-- The value of an operand; a missing one is a fault. -/
def Operand.get : Operand → Except TemplateFault Json
  | .value found => .ok found
  | .missing fault => .error fault

/-! ## Values in the text -/

/-- The items that a loop runs over: those of a list, the characters of a text, the keys of an
object. -/
def loopItems : Json → Except TemplateFault (List Json)
  | .array items => .ok items
  | .string text => .ok (text.toList.map fun c => .string (String.singleton c))
  | .object members => .ok (members.map fun member => .string member.1)
  | value => .error (.notIterable value.typeName)

/-- How a value is put into the text. -/
inductive Form where
  | plain
  | dartString
  | lowerCase
  | joined (separator : String)

/-- The text of an operand in a form. A text inside a literal must be a text. -/
def Form.apply : Form → Operand → Except TemplateFault String
  | .plain, operand => operand.get.map Json.display
  | .dartString, .value (.string text) => .ok (Dart.escape text)
  | .dartString, .value value => .error (.notText value.typeName)
  | .dartString, .missing _ => .error (.notText "StrictUndefined")
  | .lowerCase, operand => operand.get.map fun value => Text.lower value.display
  | .joined separator, operand => do
    let items ← loopItems (← operand.get)
    return separator.intercalate (items.map Json.display)

/-! ## Lines -/

/-- A condition: a value counts as true, or equals a text. -/
inductive Condition where
  | holds (expr : Expr)
  | equals (expr : Expr) (text : String)

/-- Whether a condition holds. -/
def Condition.eval (context : Context) : Condition → Except TemplateFault Bool
  | .holds expr => do return (← (← expr.eval context).get).isTruthy
  | .equals expr text => do
    match ← (← expr.eval context).get with
    | .string found => return found == text
    | _ => return false

/-- A part of a line: literal text, or a value put in its place. -/
inductive Part where
  | text (text : String)
  | put (expr : Expr) (form : Form)

instance : Coe String Part := ⟨.text⟩
instance : Coe Expr Part := ⟨fun expr => .put expr .plain⟩

/-- A line of a template, literal or of parts, or lines that depend on a condition or repeat for the
items of a list. -/
inductive Line where
  | text (literal : String)
  | line (parts : List Part)
  | choose (condition : Condition) (yes no : List Line)
  | loop (name : String) (items : Expr) (body : List Line)

/-- The text of a part in a context. -/
def Part.render (context : Context) : Part → Except TemplateFault String
  | .text literal => .ok literal
  | .put expr form => do form.apply (← expr.eval context)

/-- The texts of items, joined. -/
def joinRendered {α : Type} (render : α → Except TemplateFault String) :
    List α → Except TemplateFault String
  | [] => .ok ""
  | item :: rest => do return (← render item) ++ (← joinRendered render rest)

namespace Line

mutual

/-- The text of one template line in a context; a line ends in a line feed. -/
def render : Line → Context → Except TemplateFault String
  | .text literal, _ => .ok (literal ++ "\n")
  | .line parts, context => do return (← joinRendered (Part.render context) parts) ++ "\n"
  | .choose condition yes no, context => do
    if ← condition.eval context then renderAll yes context else renderAll no context
  | .loop name items body, context => do
    let values ← loopItems (← (← items.eval context).get)
    joinRendered (fun value => renderAll body ((name, value) :: context)) values

/-- The text of template lines one after the other. -/
def renderAll : List Line → Context → Except TemplateFault String
  | [], _ => .ok ""
  | first :: rest, context => do return (← first.render context) ++ (← renderAll rest context)

end

end Line

end DartLayers
