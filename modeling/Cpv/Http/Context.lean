import Cpv.Http.Headers

namespace cpv

/-- Method, url, version and headers of a http request. Its body is read from a
    stream of the connection. -/
structure HttpRequest where
  method : SharedString := []
  url : SharedString := []
  version : SharedString := []
  headers : HttpRequestHeaders := {}

/-- Status line and headers of a http response. Its body is written to a stream
    of the connection. -/
structure HttpResponse where
  version : SharedString := []
  statusCode : SharedString := []
  statusMessage : SharedString := []
  headers : HttpResponseHeaders := {}

/-- Request and response a handler works on. -/
structure HttpContext where
  request : HttpRequest := {}
  response : HttpResponse := {}

end cpv
