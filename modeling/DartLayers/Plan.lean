import DartLayers.Dart.RecordClass
import DartLayers.Endpoint.Feature
import DartLayers.Template.Library

/-!
# DartLayers — the plan of a run

From a feature and the schema of its payload follow the files of a run: eight of the core, which do
not depend on the payload, and seven of the feature. Planning decides paths, templates and contexts;
rendering fills in the contents.

* **`Artifact`** — a planned file.
* **`planArtifacts`** — the plan, or the fault of a payload whose root is not a record.
* **`Artifact.renderAll`** — the contents, in plan order.
-/

namespace DartLayers

/-- The architectural layer of a file. -/
inductive Layer where
  | networkCore
  | coreSupport
  | dataDatasource
  | dataModel
  | dataRepositoryImpl
  | domainEntity
  | domainRepositoryIface
  | domainUsecase
  | domainParams
  deriving Repr, DecidableEq

/-- The name of a layer. -/
def Layer.name : Layer → String
  | .networkCore => "network-core"
  | .coreSupport => "core-support"
  | .dataDatasource => "data-datasource"
  | .dataModel => "data-model"
  | .dataRepositoryImpl => "data-repository-impl"
  | .domainEntity => "domain-entity"
  | .domainRepositoryIface => "domain-repository-iface"
  | .domainUsecase => "domain-usecase"
  | .domainParams => "domain-params"

/-- A planned file: its path below the output directory, its layer, its template with the context,
and its content once it is rendered. -/
structure Artifact where
  path : String
  layer : Layer
  template : String
  context : Context
  content : String := ""

/-- The base address that stands in the registry when the feature has none. -/
def defaultBaseUrl : String := "https://api.example.com"

namespace Plan

/-! ## Values for templates -/

/-- A text or null. -/
def ofOption : Option String → Json
  | some text => .string text
  | none => .null

/-- A feature as a template sees it. -/
def featureValue (feature : Feature) : Json :=
  .object [
    ("name", .string feature.name),
    ("pascal_name", .string feature.pascalName),
    ("endpoint_path", .string feature.path),
    ("http_method", .string feature.method.name),
    ("base_url", ofOption feature.baseUrl),
    ("query", .string feature.query)]

/-- The class and method names of a feature whose payload has the given root name. -/
def namesValue (feature : Feature) (root : TypeName) : Json :=
  .object [
    ("entity", .string (root.forLayer .entity).qualified),
    ("model", .string (root.forLayer .model).qualified),
    ("repository", .string (feature.pascalName ++ "Repository")),
    ("data_source", .string (feature.pascalName ++ "RemoteDataSource")),
    ("use_case", .string ("Get" ++ feature.pascalName ++ "UseCase")),
    ("params", .string ("Get" ++ feature.pascalName ++ "Params")),
    ("method", .string ("get" ++ feature.pascalName))]

/-- A field of a record class as a template sees it. -/
def fieldValue (field : Dart.FieldDeclaration) : Json :=
  .object [
    ("key", .string field.key),
    ("identifier", .string field.identifier),
    ("dart_type", .string field.type.render),
    ("decode", ofOption (field.decoding.map Dart.Decoding.render))]

/-- A record class as a template sees it. -/
def recordValue (record : Dart.RecordClass) : Json :=
  .object [
    ("name", .string record.name.qualified),
    ("base_name", ofOption (record.base.map TypeName.qualified)),
    ("fields", .array (record.fields.map fieldValue)),
    ("identifiers", .array (record.identifiers.map .string))]

/-- The context that all files of a plan share. -/
def baseContext (feature : Feature) (root : TypeName) : Context := [
  ("feature", featureValue feature),
  ("endpoint_constant", .string feature.endpointConstant),
  ("names", namesValue feature root)]

/-- The context of the core files. An empty base address counts as unknown. -/
def coreContext (feature : Feature) (root : TypeName) (timeout : Int) : Context :=
  baseContext feature root ++ [
    ("base_url", .string ((feature.baseUrl.filter (· ≠ "")).getD defaultBaseUrl)),
    ("endpoint_path", .string feature.path),
    ("timeout", .int timeout)]

/-! ## Artifacts by layer -/

/-- The core files: path below `lib/`, which is also the template's path, and layer. -/
def coreFiles : List (String × Layer) := [
  ("core/network/api_constants.dart", .networkCore),
  ("core/network/dio_client.dart", .networkCore),
  ("core/network/interceptor/authorization_interceptor.dart", .networkCore),
  ("core/network/network_info.dart", .networkCore),
  ("core/network/network_service.dart", .networkCore),
  ("core/error/exceptions.dart", .coreSupport),
  ("core/error/failures.dart", .coreSupport),
  ("core/utils/data_parser.dart", .coreSupport)]

/-- The planned core files. -/
def coreArtifacts (feature : Feature) (root : TypeName) (timeout : Int) : List Artifact :=
  coreFiles.map fun (path, layer) =>
    { path := "lib/" ++ path, layer, template := path ++ ".j2"
      context := coreContext feature root timeout }

/-- The planned files of the domain layer. -/
def domainArtifacts (feature : Feature) (schema : Schema) (base : Context) : List Artifact :=
  let directory := "lib/feature/" ++ feature.name ++ "/domain/"
  let entities := (Dart.recordClasses schema .entity false).map recordValue
  [{ path := directory ++ "entities/" ++ feature.name ++ "_response_entity.dart"
     layer := .domainEntity
     template := "feature/domain/entity.dart.j2"
     context := base ++ [("records", .array entities)] },
   { path := directory ++ "repositories/" ++ feature.name ++ "_repository.dart"
     layer := .domainRepositoryIface
     template := "feature/domain/repository.dart.j2"
     context := base },
   { path := directory ++ "usecases/get_" ++ feature.name ++ "_use_case.dart"
     layer := .domainUsecase
     template := "feature/domain/use_case.dart.j2"
     context := base },
   { path := directory ++ "usecases/get_" ++ feature.name ++ "_params.dart"
     layer := .domainParams
     template := "feature/domain/params.dart.j2"
     context := base }]

/-- The planned files of the data layer; `wrapList` says that the sample was an array. -/
def dataArtifacts (feature : Feature) (schema : Schema) (base : Context) (wrapList : Bool) :
    List Artifact :=
  let directory := "lib/feature/" ++ feature.name ++ "/data/"
  let models := (Dart.recordClasses schema .model true).map recordValue
  [{ path := directory ++ "models/" ++ feature.name ++ "_response_model.dart"
     layer := .dataModel
     template := "feature/data/model.dart.j2"
     context := base ++ [("records", .array models)] },
   { path := directory ++ "datasources/" ++ feature.name ++ "_remote_data_source.dart"
     layer := .dataDatasource
     template := "feature/data/remote_data_source.dart.j2"
     context := base ++ [("wrap_list", .bool wrapList)] },
   { path := directory ++ "repositories/" ++ feature.name ++ "_repository_impl.dart"
     layer := .dataRepositoryImpl
     template := "feature/data/repository_impl.dart.j2"
     context := base }]

end Plan

/-! ## The plan -/

/-- The fault of a payload whose root is not a record. -/
structure PlanFault where
  feature : String
  deriving Repr, DecidableEq

/-- The wording of the fault. -/
def PlanFault.message (fault : PlanFault) : String :=
  "Cannot plan " ++ fault.feature ++ ": the payload root must be a JSON object"

/-- The files of a run, in the order in which they are written. -/
def planArtifacts (schema : Schema) (feature : Feature) (wrapList : Bool) (timeout : Int) :
    Except PlanFault (List Artifact) :=
  match schema with
  | .record name _ =>
    let base := Plan.baseContext feature name
    .ok (Plan.coreArtifacts feature name timeout ++ Plan.domainArtifacts feature schema base ++
      Plan.dataArtifacts feature schema base wrapList)
  | _ => .error ⟨feature.name⟩

/-- An artifact with its content. -/
def Artifact.render (artifact : Artifact) : Except TemplateFault Artifact :=
  (renderTemplate artifact.template artifact.context).map fun content => { artifact with content }

/-- Artifacts with their contents, in the same order. -/
def Artifact.renderAll : List Artifact → Except TemplateFault (List Artifact)
  | [] => .ok []
  | artifact :: rest => do return (← artifact.render) :: (← renderAll rest)

end DartLayers
