import DartLayers.Endpoint.Address
import DartLayers.Endpoint.Method
import DartLayers.Endpoint.Naming

/-!
# DartLayers — the feature of an endpoint

A run generates code for one feature. It is described by the endpoint, a path or an absolute
address, the method and a base address. An absolute address brings its own base; a query is kept
apart, sent with the sample request only; a fragment is dropped.
-/

namespace DartLayers

/-- The feature that a run generates code for. -/
structure Feature where
  name : String
  pascalName : String
  path : String
  method : HttpMethod
  baseUrl : Option String
  query : String
  deriving Repr, DecidableEq

namespace Feature

/-- The feature with a given path; the base loses the slashes at its end, and an empty base is
none. -/
def ofParts (path query : List Char) (method : HttpMethod) (base : Option String) : Feature :=
  let path := String.ofList path
  let name := featureName path
  { name
    pascalName := Text.toPascal name
    path
    method
    baseUrl := (base.filter (· ≠ "")).map Text.dropEndSlashes
    query := String.ofList query }

/-- The path with a slash in front. -/
def rooted (path : List Char) : List Char :=
  if path.head? == some '/' then path else '/' :: path

/-- The base address of an absolute one: scheme and authority. -/
def baseOf (address : Address) : String :=
  String.ofList (address.scheme ++ ':' :: '/' :: '/' :: address.authority)

/-- Describes an endpoint, given the base for a relative one. -/
def ofEndpoint (endpoint : String) (method : HttpMethod) (base : Option String) :
    Except AddressFault Feature :=
  let text := Text.trimWhile Text.isBlank endpoint.toList
  if Address.looksAbsolute text then
    match Address.parse text with
    | .error fault => .error fault
    | .ok address =>
      let path := if address.path.isEmpty then ['/'] else address.path
      .ok (ofParts path address.query method (some (baseOf address)))
  else
    let (path, query) := Address.takePath text
    .ok (ofParts (rooted path) query method base)

/-- The registry constant of the feature's path. -/
def endpointConstant (feature : Feature) : String :=
  DartLayers.endpointConstant feature.path

/-- The address that a sample is fetched from, if the base is known. -/
def fullUrl (feature : Feature) : Option String :=
  (feature.baseUrl.filter (· ≠ "")).map fun base =>
    if feature.query = "" then base ++ feature.path
    else base ++ feature.path ++ "?" ++ feature.query

end Feature

end DartLayers
