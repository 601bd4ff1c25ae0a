import DartLayers.Template.Parts

/-!
# DartLayers — templates of the domain layer

The entities of a feature, the interface of its repository, its use case and its parameters.
-/

namespace DartLayers.Template

open Line

/-- The entity classes. -/
def entity : List Line := [
  text "import 'package:equatable/equatable.dart';",
  loop "record" (.name "records") ([
    text "",
    line ["class ", ofRecord "name", " extends Equatable \x7b"]] ++
    fieldDeclarations ++ [
    text ""] ++
    constructor "this" ++ [
    text "",
    text "  @override",
    line ["  List<Object?> get props => [", .put (ofRecord "identifiers") (.joined ", "), "];"],
    text "\x7d"])]

/-- The repository interface. -/
def repository : List Line := [
  text "import 'package:dartz/dartz.dart';",
  text "import '../../../../core/error/failures.dart';",
  line ["import '../entities/", ofFeature "name", "_response_entity.dart';"],
  line ["import '../usecases/get_", ofFeature "name", "_params.dart';"],
  text "",
  line ["abstract class ", ofNames "repository", " \x7b"],
  line ["  Future<Either<Failure, ", ofNames "entity", ">> ", ofNames "method", "("],
  line ["    ", ofNames "params", " params,"],
  text "  );",
  text "\x7d"]

/-- The use case. -/
def useCase : List Line := [
  text "import 'package:dartz/dartz.dart';",
  text "import '../../../../core/error/failures.dart';",
  line ["import '../entities/", ofFeature "name", "_response_entity.dart';"],
  line ["import '../repositories/", ofFeature "name", "_repository.dart';"],
  line ["import 'get_", ofFeature "name", "_params.dart';"],
  text "",
  line ["class ", ofNames "use_case", " \x7b"],
  line ["  final ", ofNames "repository", " repository;"],
  text "",
  line ["  const ", ofNames "use_case", "(this.repository);"],
  text "",
  line ["  Future<Either<Failure, ", ofNames "entity", ">> call("],
  line ["    ", ofNames "params", " params,"],
  text "  ) async \x7b",
  line ["    return await repository.", ofNames "method", "(params);"],
  text "  \x7d",
  text "\x7d"]

/-- The request parameters. -/
def params : List Line := [
  text "import 'package:equatable/equatable.dart';",
  text "",
  line ["class ", ofNames "params", " extends Equatable \x7b"],
  line ["  // Define the request parameters ", ofFeature "http_method", " ",
    ofFeature "endpoint_path", " expects."],
  text "",
  line ["  const ", ofNames "params", "();"],
  text "",
  text "  @override",
  text "  List<Object?> get props => [];",
  text "",
  text "  Map<String, dynamic> toJson() => <String, dynamic>\x7b",
  text "        // 'key': value,",
  text "      \x7d;",
  text "\x7d"]

end DartLayers.Template
