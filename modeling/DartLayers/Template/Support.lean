import DartLayers.Template

/-!
# DartLayers — templates of the core support files

Exceptions, failures and the coercion of decoded values. None depends on its context.
-/

namespace DartLayers.Template

open Line

/-- The exceptions that the client throws. -/
def exceptions : List Line := [
  text "class AppException implements Exception \x7b",
  text "  final String message;",
  text "  final String? status;",
  text "  final int? code;",
  text "",
  text "  const AppException(\x7b",
  text "    this.message = 'Something went wrong.',",
  text "    this.status,",
  text "    this.code,",
  text "  \x7d);",
  text "",
  text "  @override",
  text "  String toString() => '$runtimeType(message: $message, status: $status, code: $code)';",
  text "\x7d",
  text "",
  text "class ServerException extends AppException \x7b",
  text
    "  const ServerException(\x7bsuper.message = 'Server Error', super.status, super.code\x7d);",
  text "\x7d",
  text "",
  text "class BadRequestException extends AppException \x7b",
  text
    "  const BadRequestException(\x7bsuper.message = 'Bad request.', super.status, super.code\x7d);",
  text "\x7d",
  text "",
  text "class UnauthorizedException extends AppException \x7b",
  text
    "  const UnauthorizedException(\x7bsuper.message = 'Unauthorized.', super.status, super.code\x7d);",
  text "\x7d",
  text "",
  text "class ApiTimeoutException extends AppException \x7b",
  text "  const ApiTimeoutException(\x7bsuper.message = 'The request timed out.'\x7d);",
  text "\x7d",
  text "",
  text "class NoInternetException extends AppException \x7b",
  text "  const NoInternetException(\x7bsuper.message = 'No internet connection.'\x7d);",
  text "\x7d",
  text "",
  text "class UnknownApiException extends AppException \x7b",
  text "  const UnknownApiException(\x7bsuper.message = 'Unknown error.'\x7d);",
  text "\x7d",
  text "",
  text "class RequestCancelledException extends AppException \x7b",
  text "  const RequestCancelledException(\x7bsuper.message = 'The request was cancelled.'\x7d);",
  text "\x7d"]

/-- The failures that a repository returns. -/
def failures : List Line := [
  text "import 'package:equatable/equatable.dart';",
  text "",
  text "abstract class Failure extends Equatable \x7b",
  text "  final String message;",
  text "  final int? code;",
  text "",
  text "  const Failure(\x7brequired this.message, this.code\x7d);",
  text "",
  text "  @override",
  text "  List<Object?> get props => [message, code];",
  text "\x7d",
  text "",
  text "class ServerFailure extends Failure \x7b",
  text "  const ServerFailure(\x7bsuper.message = 'Server failure.', super.code\x7d);",
  text "\x7d",
  text "",
  text "class NetworkFailure extends Failure \x7b",
  text "  const NetworkFailure(\x7bsuper.message = 'No internet connection.', super.code\x7d);",
  text "\x7d"]

/-- The coercion of decoded values. -/
def dataParser : List Line := [
  text "/// Converts a decoded JSON value to [T], coercing representational",
  text "/// mismatches such as `\"42\"` for an `int` or `1` for a `double`.",
  text "///",
  text "/// Throws a [FormatException] naming [field] when no conversion exists.",
  text "T safeParse<T>(dynamic value, String field) \x7b",
  text "  if (value is T) return value;",
  text "  if (value == null) \x7b",
  text "    throw FormatException('Missing value for \"$field\", expected $T.');",
  text "  \x7d",
  text "  final converted = _coerce<T>(value, field);",
  text "  if (converted is T) return converted;",
  text "  throw FormatException('Cannot convert \"$field\" ($value) to $T.');",
  text "\x7d",
  text "",
  text "Object? _coerce<T>(dynamic value, String field) \x7b",
  text "  if (T == int) \x7b",
  text "    return value is num ? value.toInt() : int.tryParse(value.toString().trim());",
  text "  \x7d",
  text "  if (T == double) \x7b",
  text "    return value is num ? value.toDouble() : double.tryParse(value.toString().trim());",
  text "  \x7d",
  text "  if (T == num) return num.tryParse(value.toString().trim());",
  text "  if (T == String) return value.toString();",
  text "  if (T == bool) return _parseBool(value);",
  text "  if (value is List) \x7b",
  text "    if (T == List<int>) return _coerceList<int>(value, field);",
  text "    if (T == List<double>) return _coerceList<double>(value, field);",
  text "    if (T == List<String>) return _coerceList<String>(value, field);",
  text "    if (T == List<bool>) return _coerceList<bool>(value, field);",
  text "    if (T == List<dynamic>) return List<dynamic>.from(value);",
  text "  \x7d",
  text "  return null;",
  text "\x7d",
  text "",
  text "List<E> _coerceList<E>(List<dynamic> value, String field) =>",
  text "    value.map((e) => safeParse<E>(e, field)).toList();",
  text "",
  text "bool? _parseBool(dynamic value) \x7b",
  text "  if (value is num) return value != 0;",
  text "  switch (value.toString().trim().toLowerCase()) \x7b",
  text "    case 'true':",
  text "    case '1':",
  text "    case 'yes':",
  text "      return true;",
  text "    case 'false':",
  text "    case '0':",
  text "    case 'no':",
  text "      return false;",
  text "  \x7d",
  text "  return null;",
  text "\x7d"]

end DartLayers.Template
