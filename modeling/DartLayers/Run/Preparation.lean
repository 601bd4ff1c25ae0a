import DartLayers.FileTree.Walk
import DartLayers.Manifest
import DartLayers.Sample.Exchange
import DartLayers.Schema.Inference

/-!
# DartLayers — the preparation of a run

Before anything is written a run describes its feature, obtains the sample, infers the schema, plans
the files, asks whether to write them, and renders them. None of this sees a file.

* **`Interruption`** — what ends a run without a result.
* **`Preparation`** — how far the preparation came.
* **`prepare`** — the preparation.
-/

namespace DartLayers

/-- What ends a run without a result. -/
inductive Interruption where
  | address (fault : AddressFault)
  | longInteger (digits : Nat)
  | plan (fault : PlanFault)
  | template (fault : TemplateFault)
  | markup (fault : Markup.Fault)
  | file (path : PathName) (refusal : Refusal)
  | manifest (fault : Yaml.ValueFault)

/-- The wording of an interruption. -/
def Interruption.message : Interruption → String
  | .address fault => fault.message
  | .longInteger digits => Text.longIntegerMessage digits
  | .plan fault => fault.message
  | .template fault => fault.message
  | .markup fault => fault.message
  | .file path refusal => refusal.message path
  | .manifest fault => fault.message

/-- How far a preparation came: it failed with a message, the operator declined, or the rendered
files are ready to be written. -/
inductive Preparation where
  | failed (feature : Option Feature) (message : String)
  | declined (feature : Feature)
  | ready (feature : Feature) (artifacts : List Artifact)

/-- Where a sample comes from: it is at hand, or the endpoint replies to a request. -/
inductive SampleSource where
  | text (sample : String)
  | endpoint (reply : Reply)

/-- Whether an endpoint brings its own base address, so that none is asked for. -/
def bringsBaseUrl (endpoint : String) : Bool :=
  let text := (Text.lower (Text.trim endpoint)).toList
  "http://".toList.isPrefixOf text || "https://".toList.isPrefixOf text

/-- The base address for an endpoint: none if it brings its own, that of the settings, or else the
operator's. -/
def resolveBaseUrl (settings : Settings) (endpoint : String) : Talk (Option String) := do
  if bringsBaseUrl endpoint then return none
  else match settings.baseUrl.filter (· ≠ "") with
    | some base => return some base
    | none => return some (← Operator.askBaseUrl defaultBaseUrl)

/-- The feature of an endpoint. -/
def describeFeature (settings : Settings) (endpoint : String) (method : HttpMethod) :
    ExceptT Interruption Talk Feature := do
  let base ← resolveBaseUrl settings endpoint
  match Feature.ofEndpoint endpoint method base with
  | .ok feature => return feature
  | .error fault => throw (.address fault)

/-- The payload of a feature's sample. -/
def obtainPayload (settings : Settings) (source : SampleSource) (feature : Feature) :
    ExceptT SampleFault Talk Payload := do
  match source with
  | .text sample => parseSample sample
  | .endpoint reply => parseSample (← fetchSample settings reply feature)

/-- The message that names the feature. -/
def featureEntry (feature : Feature) : LogEntry :=
  .info ("Feature: " ++ feature.name ++ " (" ++ feature.method.name ++ " " ++ feature.path ++ ")")

/-- The schema of a feature's payload. -/
def Payload.schema (payload : Payload) (feature : Feature) : Schema :=
  Schema.infer feature.name .entity [] (.object payload.members)

/-- Asks whether the planned files may be written, unless the settings say so. -/
def approve (settings : Settings) (artifacts : List Artifact) :
    ExceptT Markup.Fault Talk Bool := do
  if settings.assumeYes then return true
  else Operator.confirmGeneration (artifacts.map fun artifact => (artifact.layer, artifact.path))

/-- The rendered files of an approved plan. -/
def renderApproved (settings : Settings) (feature : Feature) (artifacts : List Artifact) :
    ExceptT Interruption Talk Preparation := do
  if ← (approve settings artifacts).adapt .markup then
    Session.say (Log.header "Writing files")
    match Artifact.renderAll artifacts with
    | .ok rendered => return .ready feature rendered
    | .error fault => throw (.template fault)
  else
    Session.say [.warning "Generation cancelled; no files were written."]
    return .declined feature

/-- Plans and renders the files for a payload. -/
def preparePayload (settings : Settings) (feature : Feature) (payload : Payload) :
    ExceptT Interruption Talk Preparation := do
  match planArtifacts (payload.schema feature) feature payload.rootWasList settings.timeout with
  | .ok artifacts => renderApproved settings feature artifacts
  | .error fault => throw (.plan fault)

/-- Reports a failure. -/
def failPreparation (feature : Option Feature) (message : String) : Talk Preparation := do
  Session.say [.error message]
  return .failed feature message

/-- Prepares the files of a described feature. -/
def prepareFeature (settings : Settings) (source : SampleSource) (feature : Feature) :
    ExceptT Interruption Talk Preparation := do
  Session.say (featureEntry feature :: Log.header "Fetching API response")
  match ← (obtainPayload settings source feature).run with
  | .ok payload => preparePayload settings feature payload
  | .error (.longInteger digits) => throw (.longInteger digits)
  | .error (.fetch fault) => do
    Session.say [.warning "Please make sure the endpoint is accessible and the method is correct."]
    failPreparation (some feature) ("Could not fetch API response: " ++ fault.message)

/-- Prepares the files for an endpoint. -/
def prepare (settings : Settings) (source : SampleSource) (endpoint method : String) :
    ExceptT Interruption Talk Preparation := do
  match HttpMethod.parse? method with
  | some method => prepareFeature settings source (← describeFeature settings endpoint method)
  | none => failPreparation none (HttpMethod.unsupportedMessage method)

end DartLayers
