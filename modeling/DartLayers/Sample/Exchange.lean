import DartLayers.Endpoint.Feature
import DartLayers.Operator
import DartLayers.Sample
import DartLayers.Settings

/-!
# DartLayers — the exchange for a sample

A sample is requested once. The request takes its authorization from the settings or from the
operator, and its body, if the method has one, from the operator. The reply is the response's text
or one of the faults that are reported.

* **`buildRequest`** — the request for a feature's sample.
* **`Reply.text`** — the text of a reply, or its fault.
* **`fetchSample`** — both, with the request noted as sent.
-/

namespace DartLayers

/-- What a request comes to: a response, or a failed exchange. -/
inductive Reply where
  | response (status : Int) (body : String)
  | notConnected (detail : String)
  | timedOut
  | failed (detail : String)
  deriving Repr, DecidableEq

/-- The text of a reply to a request. Only a status of the two hundreds is a success. -/
def Reply.text (url : String) (timeout : Int) : Reply → Except FetchFault String
  | .response status body =>
    if 200 ≤ status && status ≤ 299 then .ok body else .error (.badStatus url status body)
  | .notConnected detail => .error (.notConnected url detail)
  | .timedOut => .error (.timedOut url timeout)
  | .failed detail => .error (.failed url detail)

/-- The header value for an authorization; a single word is a bearer token. -/
def authorizationValue (authorization : String) : String :=
  if authorization.toList.contains ' ' then authorization else "Bearer " ++ authorization

/-- The headers of a sample request. -/
def requestHeaders (authorization : Option String) : List (String × String) :=
  ("Accept", "application/json") ::
    match authorization with
    | some value => [("Authorization", authorizationValue value)]
    | none => []

/-- The authorization of the settings, or else the operator's. -/
def chooseAuthorization (settings : Settings) : Talk (Option String) :=
  match settings.authToken.filter (· ≠ "") with
  | some token => return some token
  | none => Operator.askAuthorization

/-- The JSON value of a body that the operator typed; null if none was typed. -/
def readBody : Option String → Except SampleFault Json
  | none => .ok .null
  | some text =>
    match readJson text with
    | .ok value => .ok value
    | .error (.longInteger digits) => .error (.longInteger digits)
    | .error fault => .error (.fetch (.badBody fault))

/-- The body of a request. -/
def chooseBody (method : HttpMethod) : ExceptT SampleFault Talk Json := do
  if method.takesBody then
    readBody (← Operator.askSampleBody method)
  else return .null

/-- The request for a feature's sample. -/
def buildRequest (settings : Settings) (feature : Feature) :
    ExceptT SampleFault Talk SampleRequest := do
  match feature.fullUrl with
  | none => throw (.fetch (.noBaseUrl feature.path))
  | some url =>
    let authorization ← chooseAuthorization settings
    let body ← chooseBody feature.method
    return { url, method := feature.method, headers := requestHeaders authorization, body }

/-- Notes a request as sent. -/
def noteRequest (request : SampleRequest) (readTimeout : Int) : Talk Unit :=
  modify fun session =>
    { session with requests := session.requests ++ [⟨request, readTimeout⟩] }

/-- The text of the reply to the request for a feature's sample. -/
def fetchSample (settings : Settings) (reply : Reply) (feature : Feature) :
    ExceptT SampleFault Talk String := do
  let request ← buildRequest settings feature
  noteRequest request settings.timeout
  match reply.text request.url settings.timeout with
  | .ok text => return text
  | .error fault => throw (.fetch fault)

end DartLayers
