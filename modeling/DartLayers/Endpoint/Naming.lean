import DartLayers.Text.Split

/-!
# DartLayers — names made of an endpoint path

The segments of a path name the feature and the registry constant. The feature is named after the
first segment that has a word and is not `api`; the constant joins the words of every segment after
the first, or of the only one.
-/

namespace DartLayers

/-- The non-empty segments of a path. -/
def pathSegments (path : List Char) : List (List Char) :=
  (Text.splitOn '/' path).filter fun segment => !segment.isEmpty

/-- The name for a path without a usable segment. -/
def defaultFeature : String := "default_feature"

/-- The name for a path without a usable word. -/
def defaultConstant : String := "generatedEndpoint"

/-- The feature that a segment names: none for `api` in any case and for a segment without words;
a leading digit gets a word in front. -/
def segmentFeature? (segment : List Char) : Option String :=
  if segment.map Char.toLower == "api".toList then none
  else match Text.snakeChars segment with
    | [] => none
    | c :: rest =>
      some (if c.isDigit then "feature_" ++ String.ofList (c :: rest)
        else String.ofList (c :: rest))

/-- The feature that a path names, in snake case. -/
def featureName (path : String) : String :=
  ((pathSegments path.toList).findSome? segmentFeature?).getD defaultFeature

/-- The segments whose words make up the registry constant. -/
def constantSegments (path : List Char) : List (List Char) :=
  match pathSegments path with
  | [] => []
  | [only] => [only]
  | _ :: others => others

/-- The registry constant of a path, in camel case; a leading digit gets a word in front. -/
def endpointConstant (path : String) : String :=
  let words := (constantSegments path.toList).flatMap Text.words
  match Text.camelChars (['_'].intercalate words) with
  | [] => defaultConstant
  | c :: rest =>
    if c.isDigit then "endpoint" ++ String.ofList (c :: rest) else String.ofList (c :: rest)

end DartLayers
