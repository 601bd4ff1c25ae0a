import DartLayers.Double.Shortest
import DartLayers.Json
import DartLayers.Text.Quoted

/-!
# DartLayers — JSON values as text

A value put into a text or a table is shown as it is if it is a string; other values have a literal
form, in which nested strings are quoted.
-/

namespace DartLayers.Json

mutual

/-- The literal form of a value. -/
def literal : Json → String
  | .null => "None"
  | .bool true => "True"
  | .bool false => "False"
  | .int value => toString value
  | .float value => value.text
  | .string text => Text.quoted text
  | .array items => "[" ++ ", ".intercalate (itemLiterals items) ++ "]"
  | .object members => "\x7b" ++ ", ".intercalate (memberLiterals members) ++ "\x7d"

/-- The literal forms of the items of an array. -/
def itemLiterals : List Json → List String
  | [] => []
  | item :: rest => item.literal :: itemLiterals rest

/-- The literal forms of the members of an object. -/
def memberLiterals : List (String × Json) → List String
  | [] => []
  | (key, value) :: rest => (Text.quoted key ++ ": " ++ value.literal) :: memberLiterals rest

end

/-- A value as shown text. -/
def display : Json → String
  | .string text => text
  | value => value.literal

/-- Whether a value counts as true in a condition: not null, false, zero or empty. -/
def isTruthy : Json → Bool
  | .null => false
  | .bool value => value
  | .int value => value != 0
  | .float value => value.magnitude != 0
  | .string text => text != ""
  | .array items => !items.isEmpty
  | .object members => !members.isEmpty

/-- The value bound to a key. -/
def member? (key : String) : Json → Option Json
  | .object members => members.lookup key
  | _ => none

end DartLayers.Json
