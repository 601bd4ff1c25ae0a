import DartLayers.Json
import DartLayers.Text.Lines
import DartLayers.Text.Utf8
import DartLayers.Yaml.Document

/-!
# DartLayers — dependencies in a project manifest

A manifest is a YAML text. It is *read* as a document, but *edited* as text: missing dependencies
become new lines under the line `dependencies:`, or at the end if there is no such line, and all
other text stays as it is.

* **`readDependencies`** — the entries under the key `dependencies`.
* **`addDependencies`** — the text with the missing entries, and their names.
-/

namespace DartLayers

/-- Why a manifest cannot be extended. -/
inductive ManifestFault where
  | invalidYaml
  | notMapping
  | dependenciesNotMapping
  | notBlock
  | notUtf8 (fault : Text.Utf8.Fault)
  deriving Repr, DecidableEq

/-- The name of the manifest in a project's directory. -/
def manifestName : String := "pubspec.yaml"

/-- The wording of a fault, without the YAML reader's own account of what is invalid and where. -/
def ManifestFault.message : ManifestFault → String
  | .invalidYaml => "Invalid YAML"
  | .notMapping => "Top-level document is not a mapping"
  | .dependenciesNotMapping => "'dependencies' is not a mapping"
  | .notBlock => "'dependencies' is not a block mapping"
  | .notUtf8 fault => manifestName ++ " is not valid UTF-8: " ++ fault.message

/-- A failure on the way to a manifest's dependencies: a reported fault, or a value that does not
exist, which is not reported as one. -/
inductive ManifestTrouble where
  | fault (fault : ManifestFault)
  | value (fault : Yaml.ValueFault)
  deriving Repr, DecidableEq

/-! ## Reading -/

/-- The dependencies of a manifest: the document and the entries, each with the place of its
value. -/
structure Dependencies where
  document : Option Yaml.Document := none
  entries : List (Yaml.Scalar × Nat) := []

namespace Dependencies

/-- The key of the dependencies. -/
def key : String := "dependencies"

/-- Whether a dependency of a given name is there. -/
def contains (dependencies : Dependencies) (name : String) : Bool :=
  dependencies.entries.any fun (found, _) => decide (found = .text name)

/-- The dependencies with their values. -/
def trees (dependencies : Dependencies) : List (Yaml.Scalar × Yaml.Tree) :=
  match dependencies.document with
  | none => []
  | some document => dependencies.entries.map fun (name, place) =>
      (name, document.tree (document.graph.size + 1) place)

/-- The dependencies of a document. Neither the document nor its dependencies need be there, but
what is there must be a mapping. -/
def ofDocument (document : Yaml.Document) : Except ManifestFault Dependencies :=
  if document.isNull document.root then .ok {}
  else match document.entries? document.root with
    | none => .error .notMapping
    | some entries =>
      match entries.find? fun (found, _) => decide (found = .text key) with
      | none => .ok {}
      | some (_, place) =>
        if document.isNull place then .ok {}
        else match document.entries? place with
          | none => .error .dependenciesNotMapping
          | some entries => .ok { document := some document, entries }

end Dependencies

/-- The dependencies of a manifest. -/
def readDependencies (text : String) : Except ManifestTrouble Dependencies :=
  match Yaml.readDocument text with
  | .error .malformed => .error (.fault .invalidYaml)
  | .error (.value fault) => .error (.value fault)
  | .ok none => .ok {}
  | .ok (some document) =>
    match Dependencies.ofDocument document with
    | .error fault => .error (.fault fault)
    | .ok dependencies => .ok dependencies

namespace Manifest

/-! ## Editing

The text is split into lines, and new lines are put between them; no line is changed. -/

/-- The start of the line that the dependencies follow. -/
def header : List Char := "dependencies:".toList

/-- A space or a tab. -/
def isIndent (c : Char) : Bool :=
  c == ' ' || c == '\t'

/-- A carriage return or a line feed. -/
def isReturnOrFeed (c : Char) : Bool :=
  c == '\r' || c == '\n'

/-- Whether a line holds the key of the dependencies and nothing else but a comment. -/
def isHeader (line : List Char) : Bool :=
  header.isPrefixOf line &&
    match (Text.dropEndWhile isReturnOrFeed line).drop header.length |>.dropWhile isIndent with
    | [] => true
    | c :: _ => c == '#'

/-- Whether a line of a text starts with the key of the dependencies; only line feeds count. -/
def startsHeader (text : List Char) : Bool :=
  (Text.splitOn '\n' text).any header.isPrefixOf

/-- Whether a line is blank or a comment. -/
def isSkipped (line : List Char) : Bool :=
  match Text.trimWhile Text.isBlank line with
  | [] => true
  | c :: _ => c == '#'

/-- The indentation of entries that nothing else decides. -/
def defaultIndent : List Char := [' ', ' ']

/-- The indentation of the entries that the lines after the header ask for. -/
def childIndent (lines : List (List Char)) : List Char :=
  match lines.find? fun line => !isSkipped line with
  | none => defaultIndent
  | some line =>
    match line.takeWhile isIndent with
    | [] => defaultIndent
    | indent => indent

/-- The line of an entry. -/
def entryLine (indent : List Char) (name version : String) : List Char :=
  indent ++ name.toList ++ ": ".toList ++ version.toList ++ ['\n']

/-- The lines of entries. -/
def entryLines (indent : List Char) (entries : List (String × String)) : List Char :=
  entries.flatMap fun (name, version) => entryLine indent name version

/-- A line feed, unless the text has one at its end already. -/
def missingFeed (text : List Char) : List Char :=
  if text.getLast? == some '\n' then [] else ['\n']

/-- A text with entries under its header, which is among its lines. -/
def insertUnder (before : List (List Char)) (header : List Char) (after : List (List Char))
    (entries : List (String × String)) : List Char :=
  before.flatten ++ header ++ missingFeed header ++ entryLines (childIndent after) entries ++
    after.flatten

/-- A text with a header and entries at its end. -/
def append (text : List Char) (entries : List (String × String)) : List Char :=
  text ++ (if text.isEmpty then [] else missingFeed text) ++ header ++ '\n' ::
    entryLines defaultIndent entries

/-- A text with entries for missing dependencies; `isEmpty` says that the manifest has none so far.
Without a header line, dependencies that are there are not a block that could be extended. -/
def extend (text : List Char) (isEmpty : Bool) (entries : List (String × String)) :
    Except ManifestFault (List Char) :=
  let lines := Text.splitLines text
  match lines.dropWhile fun line => !isHeader line with
  | header :: after =>
    .ok (insertUnder (lines.takeWhile fun line => !isHeader line) header after entries)
  | [] =>
    if !isEmpty || startsHeader text then .error .notBlock
    else .ok (append text entries)

end Manifest

/-- A manifest with the required dependencies that it lacks, and the names of those, in the order in
which they are required. A name that is required twice keeps its first place and its last
version. -/
def addDependencies (text : String) (required : List (String × String)) :
    Except ManifestTrouble (String × List String) := do
  let existing ← readDependencies text
  let missing := (collectMembers required).filter fun (name, _) => !existing.contains name
  if missing.isEmpty then return (text, [])
  else match Manifest.extend text.toList existing.entries.isEmpty missing with
    | .error fault => .error (.fault fault)
    | .ok extended => return (String.ofList extended, missing.map Prod.fst)

end DartLayers
