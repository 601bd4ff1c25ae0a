import DartLayers.Template.Data
import DartLayers.Template.Domain
import DartLayers.Template.Network
import DartLayers.Template.Support
import DartLayers.Text.Split

/-!
# DartLayers — the template library

The templates by their paths. A path is looked up by its segments, empty ones and single dots left
out; a path with a double dot leads out of the library and finds nothing.
-/

namespace DartLayers

namespace Template

/-- The templates of the generated files, by path. The parts that the feature files share have a
path of their own and no text. -/
def library : List (String × List Line) := [
  ("_macros.j2", []),
  ("core/network/api_constants.dart.j2", apiConstants),
  ("core/network/dio_client.dart.j2", dioClient),
  ("core/network/interceptor/authorization_interceptor.dart.j2", authorizationInterceptor),
  ("core/network/network_info.dart.j2", networkInfo),
  ("core/network/network_service.dart.j2", networkService),
  ("core/error/exceptions.dart.j2", exceptions),
  ("core/error/failures.dart.j2", failures),
  ("core/utils/data_parser.dart.j2", dataParser),
  ("feature/domain/entity.dart.j2", entity),
  ("feature/domain/repository.dart.j2", repository),
  ("feature/domain/use_case.dart.j2", useCase),
  ("feature/domain/params.dart.j2", params),
  ("feature/data/model.dart.j2", model),
  ("feature/data/remote_data_source.dart.j2", remoteDataSource),
  ("feature/data/repository_impl.dart.j2", repositoryImpl)]

/-- The path of a template in its normal form. -/
def normalPath? (path : String) : Option String :=
  let segments := Text.splitOn '/' path.toList
  if segments.contains ['.', '.'] then none
  else some (String.ofList
    (['/'].intercalate (segments.filter fun segment => segment != [] && segment != ['.'])))

/-- The template at a path. -/
def find? (path : String) : Option (List Line) :=
  (normalPath? path).bind (library.lookup ·)

end Template

/-- The text of the template at a path in a context. -/
def renderTemplate (path : String) (context : Context) : Except TemplateFault String :=
  match Template.find? path with
  | some lines => Line.renderAll lines context
  | none => .error (.notFound path)

end DartLayers
