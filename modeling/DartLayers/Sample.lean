import DartLayers.Json.Reader

/-!
# DartLayers — sample payloads

A sample is the text of one response. It must be a JSON object; an array is wrapped as the member
`data` of an object. Anything else is refused, a scalar by the name of its kind.
-/

namespace DartLayers

/-- Why a sample cannot be had: no base address, a body that is not JSON, a failed exchange, or a
response that is no payload. -/
inductive FetchFault where
  | noBaseUrl (path : String)
  | badBody (fault : JsonFault)
  | notConnected (url detail : String)
  | timedOut (url : String) (seconds : Int)
  | badStatus (url : String) (status : Int) (body : String)
  | failed (url detail : String)
  | notJson (fault : JsonFault)
  | scalarRoot (kind : String)
  deriving Repr, DecidableEq

/-- The longest part of a response body that a message shows. -/
def shownBodyLength : Nat := 500

/-- The wording of a fault. -/
def FetchFault.message : FetchFault → String
  | .noBaseUrl path => "No base URL known for " ++ path
  | .badBody fault => "Sample body is not valid JSON: " ++ fault.message
  | .notConnected url detail => "Cannot connect to " ++ url ++ ": " ++ detail
  | .timedOut url seconds => "Request to " ++ url ++ " timed out after " ++ toString seconds ++ "s"
  | .badStatus url status body =>
    url ++ " returned HTTP " ++ toString status ++ ": " ++
      String.ofList (body.toList.take shownBodyLength)
  | .failed url detail => "Request to " ++ url ++ " failed: " ++ detail
  | .notJson fault => "Could not parse response as JSON: " ++ fault.message
  | .scalarRoot kind => "Unexpected response format: " ++ kind

/-- A failure on the way to a payload: a reported fault, or a whole number with too many digits,
which is not reported as one. -/
inductive SampleFault where
  | fetch (fault : FetchFault)
  | longInteger (digits : Nat)
  deriving Repr, DecidableEq

/-- The wording of a failure. -/
def SampleFault.message : SampleFault → String
  | .fetch fault => fault.message
  | .longInteger digits => Text.longIntegerMessage digits

/-- A payload: the members of its root object, and whether the root was an array. -/
structure Payload where
  members : List (String × Json)
  rootWasList : Bool

/-- The member that a root array is wrapped under. -/
def listRootKey : String := "data"

/-- The payload that a JSON value is. -/
def Payload.ofJson : Json → Except SampleFault Payload
  | .object members => .ok ⟨members, false⟩
  | .array items => .ok ⟨[(listRootKey, .array items)], true⟩
  | value => .error (.fetch (.scalarRoot value.typeName))

/-- The payload in the text of a response. -/
def parseSample (text : String) : Except SampleFault Payload :=
  match readJson text with
  | .ok value => Payload.ofJson value
  | .error (.longInteger digits) => .error (.longInteger digits)
  | .error fault => .error (.fetch (.notJson fault))

end DartLayers
