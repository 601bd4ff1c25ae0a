import DartLayers.Text.Blank
import DartLayers.Text.Casing
import DartLayers.Text.Quoted

/-!
# DartLayers — HTTP methods

The generated data source can be wired for four methods. A method is read without regard to case
and to blanks around it.
-/

namespace DartLayers

/-- A supported HTTP method. -/
inductive HttpMethod where
  | get
  | post
  | put
  | delete
  deriving Repr, DecidableEq

namespace HttpMethod

/-- The name on the wire. -/
def name : HttpMethod → String
  | .get => "GET"
  | .post => "POST"
  | .put => "PUT"
  | .delete => "DELETE"

/-- All methods, in the order in which they are listed. -/
def all : List HttpMethod := [.get, .post, .put, .delete]

/-- The method with a given name on the wire. -/
def ofName? (name : String) : Option HttpMethod :=
  all.find? fun method => method.name == name

/-- The method that a text names, in any case and with blanks around it. -/
def parse? (text : String) : Option HttpMethod :=
  ofName? (Text.upper (Text.trim text))

/-- The wording for a text that names no supported method. -/
def unsupportedMessage (text : String) : String :=
  "Unsupported HTTP method: " ++ Text.quoted text ++ " (expected GET, POST, PUT or DELETE)"

/-- Whether a sample request of this method may carry a body. -/
def takesBody : HttpMethod → Bool
  | .post | .put => true
  | .get | .delete => false

/-- Every method is found by its name. -/
theorem ofName?_name (method : HttpMethod) : ofName? method.name = some method := by
  cases method <;> decide

end HttpMethod

end DartLayers
