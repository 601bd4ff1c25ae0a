import DartLayers.Text.Words

/-!
# DartLayers — field identifiers

The keys of a record become the fields of a class. A key is spelled in camel case; one without
letters and digits is numbered by its place, one that starts with a digit gets a leading word, and
a reserved word gets a trailing underscore. A name that an earlier key has taken is counted up from
two until it is free.

* **`baseIdentifier`** — the name of a key before earlier ones are looked at.
* **`freshName`** — the first free name among a base and its numbered forms.
* **`fieldIdentifiers`** — the names of all keys of a record, in order.
-/

namespace DartLayers.Dart

/-- Words that cannot name a field: keywords, members that every generated class inherits, and the
generated constructor. -/
def reservedWords : List String := [
  "abstract", "as", "assert", "async", "await", "base", "break", "case", "catch", "class", "const",
  "continue", "covariant", "default", "deferred", "do", "dynamic", "else", "enum", "export",
  "extends", "extension", "external", "factory", "false", "final", "finally", "for", "Function",
  "get", "hide", "if", "implements", "import", "in", "interface", "is", "late", "library", "mixin",
  "new", "null", "on", "operator", "part", "required", "rethrow", "return", "sealed", "set",
  "show", "static", "super", "switch", "sync", "this", "throw", "true", "try", "typedef", "var",
  "void", "when", "while", "with", "yield", "hashCode", "runtimeType", "toString", "noSuchMethod",
  "props", "stringify", "fromJson"]

/-- The name of the key at the place `index`, before reserved words are looked at. -/
def plainIdentifier (index : Nat) (key : String) : String :=
  let camel := Text.toCamel key
  if camel = "" then "field" ++ toString index
  else if Text.startsWithDigit camel then "field" ++ Text.toPascal key
  else camel

/-- The name of the key at the place `index`, before earlier keys are looked at. -/
def baseIdentifier (index : Nat) (key : String) : String :=
  let plain := plainIdentifier index key
  if reservedWords.contains plain then plain ++ "_" else plain

/-- The name itself, then the name with 2, 3, … appended. -/
def numberedName (base : String) : Nat → String
  | 0 => base
  | count + 1 => base ++ toString (count + 2)

/-- The first of a name and its numbered forms that is not taken. Among one form more than there
are taken names, one is free. -/
def freshName (taken : List String) (base : String) : String :=
  (((List.range (taken.length + 1)).map (numberedName base)).find?
    fun name => !taken.contains name).getD base

/-- The names of keys whose first place is `index`, given the names taken before. -/
def identifiersFrom (taken : List String) (index : Nat) : List String → List String
  | [] => []
  | key :: rest =>
    let name := freshName taken (baseIdentifier index key)
    name :: identifiersFrom (name :: taken) (index + 1) rest

/-- The field names of a record's keys, in order. -/
def fieldIdentifiers (keys : List String) : List String :=
  identifiersFrom [] 0 keys

end DartLayers.Dart
