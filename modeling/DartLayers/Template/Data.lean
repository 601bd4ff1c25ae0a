import DartLayers.Template.Parts

/-!
# DartLayers — templates of the data layer

The models of a feature, its remote data source and the implementation of its repository.
-/

namespace DartLayers.Template

open Line

/-- The model classes. -/
def model : List Line := [
  text "import '../../../../core/utils/data_parser.dart';",
  line ["import '../../domain/entities/", ofFeature "name", "_response_entity.dart';"],
  loop "record" (.name "records") ([
    text "",
    line ["class ", ofRecord "name", " extends ", ofRecord "base_name", " \x7b"]] ++
    constructor "super" ++ [
    text "",
    line ["  factory ", ofRecord "name", ".fromJson(Map<String, dynamic> json) \x7b"],
    choose (.holds (ofRecord "fields")) [
      line ["    return ", ofRecord "name", "("],
      loop "f" (ofRecord "fields") [
        line ["      ", ofField "identifier", ": ", ofField "decode", ","]],
      text "    );"] [
      line ["    return const ", ofRecord "name", "();"]],
    text "  \x7d",
    text "\x7d"])]

/-- The remote data source. -/
def remoteDataSource : List Line := [
  choose (.equals (ofFeature "http_method") "DELETE") [
    text "import 'dart:convert';",
    text ""] [],
  text "import 'package:dio/dio.dart';",
  text "import '../../../../core/error/exceptions.dart';",
  text "import '../../../../core/network/api_constants.dart';",
  text "import '../../../../core/network/dio_client.dart';",
  line ["import '../../domain/usecases/get_", ofFeature "name", "_params.dart';"],
  line ["import '../models/", ofFeature "name", "_response_model.dart';"],
  text "",
  line ["abstract class ", ofNames "data_source", " \x7b"],
  line ["  Future<", ofNames "model", "> ", ofNames "method", "(", ofNames "params", " params);"],
  text "\x7d",
  text "",
  line ["class ", ofNames "data_source", "Impl implements ", ofNames "data_source", " \x7b"],
  text "  final DioClient dio;",
  text "",
  line ["  const ", ofNames "data_source", "Impl(\x7brequired this.dio\x7d);"],
  text "",
  text "  @override",
  line ["  Future<", ofNames "model", "> ", ofNames "method", "(", ofNames "params",
    " params) async \x7b"],
  text "    try \x7b",
  text "      final requestData = params.toJson();",
  text "",
  choose (.equals (ofFeature "http_method") "GET") [
    text "      final response = await dio.get(",
    line ["        ApiList.", Expr.name "endpoint_constant", ","],
    text "        queryParameters: requestData,",
    text "      );"] [
    choose (.equals (ofFeature "http_method") "DELETE") [
      text "      final response = await dio.delete(",
      line ["        ApiList.", Expr.name "endpoint_constant", ","],
      text "        data: json.encode(requestData),",
      text "        options: Options(headers: \x7b'Content-Type': 'application/json'\x7d),",
      text "      );"] [
      text "      final formData = FormData.fromMap(requestData);",
      text "",
      line ["      final response = await dio.", .put (ofFeature "http_method") .lowerCase, "("],
      line ["        ApiList.", Expr.name "endpoint_constant", ","],
      text "        data: formData,",
      text "      );"]],
  text "",
  text "      if (response is Map<String, dynamic>) \x7b",
  line ["        return ", ofNames "model", ".fromJson(response);"],
  text "      \x7d",
  choose (.holds (.name "wrap_list")) [
    text "      if (response is List) \x7b",
    line ["        return ", ofNames "model",
      ".fromJson(<String, dynamic>\x7b'data': response\x7d);"],
    text "      \x7d"] [],
  text "      throw const ServerException(message: 'Invalid response format from server.');",
  text "    \x7d on AppException \x7b",
  text "      rethrow;",
  text "    \x7d",
  text "  \x7d",
  text "\x7d"]

/-- The repository implementation. -/
def repositoryImpl : List Line := [
  text "import 'package:dartz/dartz.dart';",
  text "import '../../../../core/error/exceptions.dart';",
  text "import '../../../../core/error/failures.dart';",
  line ["import '../../domain/entities/", ofFeature "name", "_response_entity.dart';"],
  line ["import '../../domain/repositories/", ofFeature "name", "_repository.dart';"],
  line ["import '../../domain/usecases/get_", ofFeature "name", "_params.dart';"],
  line ["import '../datasources/", ofFeature "name", "_remote_data_source.dart';"],
  text "",
  line ["class ", ofNames "repository", "Impl implements ", ofNames "repository", " \x7b"],
  line ["  final ", ofNames "data_source", " remoteDataSource;"],
  text "",
  line ["  const ", ofNames "repository", "Impl(\x7brequired this.remoteDataSource\x7d);"],
  text "",
  text "  @override",
  line ["  Future<Either<Failure, ", ofNames "entity", ">> ", ofNames "method", "("],
  line ["    ", ofNames "params", " params,"],
  text "  ) async \x7b",
  text "    try \x7b",
  line ["      final remoteData = await remoteDataSource.", ofNames "method", "(params);"],
  text "      return Right(remoteData);",
  text "    \x7d on NoInternetException catch (e) \x7b",
  text "      return Left(NetworkFailure(message: e.message));",
  text "    \x7d on AppException catch (e) \x7b",
  text "      return Left(ServerFailure(message: e.message, code: e.code));",
  text "    \x7d on FormatException catch (e) \x7b",
  text "      return Left(ServerFailure(message: e.message));",
  text "    \x7d",
  text "  \x7d",
  text "\x7d"]

end DartLayers.Template
