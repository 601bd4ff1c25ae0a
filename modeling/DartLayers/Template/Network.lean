import DartLayers.Template

/-!
# DartLayers — templates of the network core

The endpoint registry, the HTTP client with its interceptor, and the connectivity checks. Only the
registry and the client depend on their context.
-/

namespace DartLayers.Template

open Line

/-- The registry of base address and endpoint. -/
def apiConstants : List Line := [
  text "final class ApiList \x7b",
  text "  ApiList._();",
  text "",
  text "  // --- Base URLs ---",
  line ["  static const apiBaseUrl = \"", .put (.name "base_url") .dartString, "\";"],
  text "",
  text "  // --- Generated API Endpoints ---",
  choose (.holds (.name "endpoint_constant")) [
    text "  // Generated endpoint",
    line ["  static const ", Expr.name "endpoint_constant", " = \"",
      .put (.name "endpoint_path") .dartString, "\";"]] [],
  text "  // Add your endpoints here",
  text "\x7d"]

/-- The HTTP client, with one function per verb. -/
def dioClient : List Line := [
  text "import 'dart:io';",
  text "import 'package:dio/dio.dart';",
  text "import 'package:flutter/foundation.dart';",
  text "import '../error/exceptions.dart';",
  text "import 'api_constants.dart';",
  text "import 'interceptor/authorization_interceptor.dart';",
  text "",
  text "class DioClient \x7b",
  text "  final Dio _dio;",
  text "",
  text "  DioClient(this._dio) \x7b",
  text "    _dio",
  text "      ..options.baseUrl = ApiList.apiBaseUrl",
  line ["      ..options.connectTimeout = const Duration(seconds: ", Expr.name "timeout", ")"],
  line ["      ..options.receiveTimeout = const Duration(seconds: ", Expr.name "timeout", ")"],
  text "      ..options.responseType = ResponseType.json",
  text "      ..options.headers = \x7b'Accept': 'application/json'\x7d;",
  text "",
  text "    _dio.interceptors.add(AuthorizationInterceptor());",
  text "",
  text "    if (kDebugMode) \x7b",
  text "      _dio.interceptors.add(",
  text "        LogInterceptor(requestBody: true, responseBody: true),",
  text "      );",
  text "    \x7d",
  text "  \x7d",
  loop "verb" (.texts ["get", "post", "put", "delete"]) [
    text "",
    line ["  Future<dynamic> ", Expr.name "verb", "("],
    text "    String endpoint, \x7b",
    text "    dynamic data,",
    text "    Map<String, dynamic>? queryParameters,",
    text "    Options? options,",
    text "  \x7d) async \x7b",
    text "    try \x7b",
    line ["      final response = await _dio.", Expr.name "verb", "("],
    text "        endpoint,",
    text "        data: data,",
    text "        queryParameters: queryParameters,",
    text "        options: options,",
    text "      );",
    text "      return response.data;",
    text "    \x7d on DioException catch (e) \x7b",
    text "      _handleDioException(e);",
    text "    \x7d catch (e) \x7b",
    text "      throw ServerException(message: e.toString());",
    text "    \x7d",
    text "  \x7d"],
  text "",
  text "  Never _handleDioException(DioException e) \x7b",
  text "    switch (e.type) \x7b",
  text "      case DioExceptionType.connectionTimeout:",
  text "      case DioExceptionType.sendTimeout:",
  text "      case DioExceptionType.receiveTimeout:",
  text "        throw const ApiTimeoutException();",
  text "",
  text "      case DioExceptionType.badResponse:",
  text "        final data = e.response?.data;",
  text "        final body = data is Map ? data : const \x7b\x7d;",
  text "        final message = body['message']?.toString() ?? 'Server Error';",
  text "        final status = body['status']?.toString() ?? 'error';",
  text "        final code = e.response?.statusCode;",
  text "",
  text "        switch (code) \x7b",
  text "          case 400:",
  text "          case 422:",
  text "            throw BadRequestException(message: message, status: status, code: code);",
  text "          case 401:",
  text "            throw UnauthorizedException(message: message, status: status, code: code);",
  text "          default:",
  text "            throw ServerException(message: message, status: status, code: code);",
  text "        \x7d",
  text "",
  text "      case DioExceptionType.connectionError:",
  text "      case DioExceptionType.unknown:",
  text "        if (e.error is SocketException) \x7b",
  text "          throw const NoInternetException();",
  text "        \x7d",
  text "        throw const UnknownApiException();",
  text "",
  text "      case DioExceptionType.cancel:",
  text "        throw const RequestCancelledException();",
  text "",
  text "      case DioExceptionType.badCertificate:",
  text "        throw const BadRequestException(message: 'Bad certificate.');",
  text "    \x7d",
  text "  \x7d",
  text "\x7d"]

/-- The interceptor that attaches the bearer token. -/
def authorizationInterceptor : List Line := [
  text "import 'package:dio/dio.dart';",
  text "",
  text "class AuthorizationInterceptor extends Interceptor \x7b",
  text "  /// Bearer token attached to every request; cleared on a 401 response.",
  text "  static String? token;",
  text "",
  text "  @override",
  text "  void onRequest(RequestOptions options, RequestInterceptorHandler handler) \x7b",
  text "    final current = token;",
  text "    if (current != null && current.isNotEmpty) \x7b",
  text "      options.headers['Authorization'] = 'Bearer $current';",
  text "    \x7d",
  text "    handler.next(options);",
  text "  \x7d",
  text "",
  text "  @override",
  text "  void onError(DioException err, ErrorInterceptorHandler handler) \x7b",
  text "    if (err.response?.statusCode == 401) \x7b",
  text "      token = null;",
  text "    \x7d",
  text "    handler.next(err);",
  text "  \x7d",
  text "\x7d"]

/-- The connectivity check behind an interface. -/
def networkInfo : List Line := [
  text "import 'package:connectivity_plus/connectivity_plus.dart';",
  text "",
  text "abstract class NetworkInfo \x7b",
  text "  Future<bool> get isConnected;",
  text "\x7d",
  text "",
  text "class NetworkInfoImpl implements NetworkInfo \x7b",
  text "  final Connectivity connectivity;",
  text "",
  text "  NetworkInfoImpl(this.connectivity);",
  text "",
  text "  @override",
  text "  Future<bool> get isConnected async \x7b",
  text "    final result = await connectivity.checkConnectivity();",
  text "    return result != ConnectivityResult.none;",
  text "  \x7d",
  text "\x7d"]

/-- The connectivity check by kind of connection. -/
def networkService : List Line := [
  text "import 'package:connectivity_plus/connectivity_plus.dart';",
  text "",
  text "class NetworkService \x7b",
  text "  Future<bool> checkConnectivity() async \x7b",
  text "    final result = await Connectivity().checkConnectivity();",
  text "    return result == ConnectivityResult.mobile ||",
  text "        result == ConnectivityResult.wifi ||",
  text "        result == ConnectivityResult.ethernet;",
  text "  \x7d",
  text "\x7d",
  text "",
  text "enum ConnectionStatus \x7b",
  text "  checking,",
  text "  connected,",
  text "  disconnected,",
  text "\x7d"]

end DartLayers.Template
