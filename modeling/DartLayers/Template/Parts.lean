import DartLayers.Template

/-!
# DartLayers — template parts shared by the feature files

Shorthands for the members of the context, and the parts that entity and model classes share: the
field declarations and the constructor.
-/

namespace DartLayers.Template

open Line

/-- A member of the feature. -/
def ofFeature (key : String) : Expr := .member (.name "feature") key

/-- One of the class and method names of the feature. -/
def ofNames (key : String) : Expr := .member (.name "names") key

/-- A member of the record that a loop is at. -/
def ofRecord (key : String) : Expr := .member (.name "record") key

/-- A member of the field that a loop is at. -/
def ofField (key : String) : Expr := .member (.name "f") key

/-- The declarations of a record's fields, one per line. -/
def fieldDeclarations : List Line := [
  loop "f" (ofRecord "fields") [
    line ["  final ", ofField "dart_type", " ", ofField "identifier", ";"]]]

/-- The constructor of a record class; each field is a parameter of the given receiver. -/
def constructor (receiver : String) : List Line := [
  choose (.holds (ofRecord "fields")) [
    line ["  const ", ofRecord "name", "(\x7b"],
    loop "f" (ofRecord "fields") [
      line ["    required ", receiver, ".", ofField "identifier", ","]],
    text "  \x7d);"] [
    line ["  const ", ofRecord "name", "();"]]]

end DartLayers.Template
