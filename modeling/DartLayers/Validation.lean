/-!
# DartLayers — faults of field values

A value that is built from outside data names every field that it refuses and the rule that the
field breaks. Several faults are reported together, in the order of the fields.
-/

namespace DartLayers

/-- The rule that a field's value breaks. -/
inductive FieldRule where
  | notEmpty
  | layerName
  | atLeastOne
  | integerText
  | integerSize
  | integer
  | wholeNumber
  | finiteNumber
  | booleanText
  | boolean
  | string
  | path
  | mapping
  deriving Repr, DecidableEq

/-- A refused field. -/
structure FieldFault where
  field : String
  rule : FieldRule
  deriving Repr, DecidableEq

/-- The wording of a rule, with its short name in brackets. -/
def FieldRule.message : FieldRule → String
  | .notEmpty => "String should have at least 1 character [string_too_short]"
  | .layerName => "Input should be 'Entity' or 'Model' [enum]"
  | .atLeastOne => "Input should be greater than or equal to 1 [greater_than_equal]"
  | .integerText =>
    "Input should be a valid integer, unable to parse string as an integer [int_parsing]"
  | .integerSize =>
    "Unable to parse input string as an integer, exceeded maximum size [int_parsing_size]"
  | .integer => "Input should be a valid integer [int_type]"
  | .wholeNumber =>
    "Input should be a valid integer, got a number with a fractional part [int_from_float]"
  | .finiteNumber => "Input should be a finite number [finite_number]"
  | .booleanText =>
    "Input should be a valid boolean, unable to interpret input [bool_parsing]"
  | .boolean => "Input should be a valid boolean [bool_type]"
  | .string => "Input should be a valid string [string_type]"
  | .path => "Input is not a valid path for <class 'pathlib.Path'> [path_type]"
  | .mapping => "Input should be a valid dictionary [dict_type]"

/-- The wording of one fault. -/
def FieldFault.message (fault : FieldFault) : String :=
  fault.field ++ ": " ++ fault.rule.message

/-- The wording of several faults. -/
def FieldFault.messages (faults : List FieldFault) : String :=
  "; ".intercalate (faults.map FieldFault.message)

/-- A value, or the faults of the fields that it is made of. -/
abbrev Checked (α : Type) := Except (List FieldFault) α

/-- Applies a checked function to a checked value; the faults of both are reported. -/
def Checked.apply {α β : Type} : Checked (α → β) → Checked α → Checked β
  | .ok function, .ok value => .ok (function value)
  | .ok _, .error faults => .error faults
  | .error faults, .ok _ => .error faults
  | .error faults, .error others => .error (faults ++ others)

/-- The value of a field, or its fault. -/
def Checked.ofField {α : Type} (field : String) : Except FieldRule α → Checked α
  | .ok value => .ok value
  | .error rule => .error [⟨field, rule⟩]

end DartLayers
