import Cpv.Http.Context
import Cpv.Utility.StringUtils

namespace cpv

/-- per request and response data for reply loop -/
structure ReplyLoopData where
  requestId : UInt32 := 0
  requestBodyConsumed : Bool := false
  responseHeadersAppended : Bool := false
  responseWrittenBytes : UInt64 := 0
  keepConnection : Bool := false

/-- What the connection puts into its socket: the header block of a response,
    a piece of its body, or one of the canned error responses. -/
inductive OutputEvent
  | responseHeaders (response : HttpResponse)
  | responseBody (data : SharedString)
  | errorResponse (data : SharedString)

/-- The part of the connection that the running handler works on. -/
structure ReplySide where
  processingContext : HttpContext := {}
  replyLoopData : ReplyLoopData := {}
  socketOut : List OutputEvent := []

/-- The fragments of a header block. -/
def HttpResponse.headerFragments (response : HttpResponse) : List SharedString :=
  response.headers.appendToHttp1Packet
    [response.version, constants.Space, response.statusCode, constants.Space, response.statusMessage] ++
    [constants.CRLFCRLF]

/-- The fragments an output event puts into the socket. -/
def OutputEvent.fragments : OutputEvent → List SharedString
  | responseHeaders response => response.headerFragments
  | responseBody data => [data]
  | errorResponse data => [data]

/-- Copy the version from the request, and return a special status code for a
    handler that did not set it. -/
def fillStatusLine (context : HttpContext) : HttpResponse :=
  let response := context.response
  let response := if response.version = [] then
    { response with version := context.request.version } else response
  if response.statusCode = [] ∨ response.statusMessage = [] then
    { response with
      statusCode := text "0", statusMessage := text "Status code or status message not set" }
  else response

/-- Set the date and server headers a handler left empty. -/
def fillHeaders (headers : HttpResponseHeaders) (now : SharedString) : HttpResponseHeaders :=
  let headers := if headers.date = [] then { headers with date := now } else headers
  if headers.server = [] then { headers with server := constants.CPVFramework } else headers

/-- Determine whether keep connection or not by checking connection header -/
def checkKeepaliveByConnnectionHeader (context : HttpContext) : Bool :=
  let connectionValue := context.request.headers.connection
  if connectionValue = constants.Keepalive then true
  else if connectionValue ≠ [] then false
  else if context.response.version = constants.Http10 then false
  else true

/-- The response whose header block is sent, and whether it keeps the connection. -/
def prepareResponse (context : HttpContext) (now : SharedString) : HttpResponse × Bool :=
  let response := fillStatusLine context
  let headers := fillHeaders response.headers now
  let keepConnection := checkKeepaliveByConnnectionHeader { context with response }
  if headers.connection = [] then
    let connection := if keepConnection then constants.Keepalive else constants.Close
    ({ response with headers := { headers with connection } }, keepConnection)
  else if headers.connection ≠ constants.Keepalive then ({ response with headers }, false)
  else ({ response with headers }, keepConnection)

/-- Append response headers to packet, which is what the socket gets next. -/
def appendResponseHeaders (side : ReplySide) (now : SharedString) : ReplySide :=
  if side.replyLoopData.responseHeadersAppended then side
  else
    let prepared := prepareResponse side.processingContext now
    { processingContext := { side.processingContext with response := prepared.1 }
      replyLoopData := { side.replyLoopData with
        responseHeadersAppended := true, keepConnection := prepared.2 }
      socketOut := side.socketOut ++ [.responseHeaders prepared.1] }

theorem appendResponseHeaders_frame (side : ReplySide) (now : SharedString) :
    (appendResponseHeaders side now).replyLoopData.requestId = side.replyLoopData.requestId ∧
      (appendResponseHeaders side now).replyLoopData.requestBodyConsumed =
        side.replyLoopData.requestBodyConsumed := by
  unfold appendResponseHeaders
  split <;> exact ⟨rfl, rfl⟩

/-- Write data to the response stream. Headers and first data share a packet. -/
def write (side : ReplySide) (data now : SharedString) : ReplySide :=
  let side := appendResponseHeaders side now
  { side with
    replyLoopData := { side.replyLoopData with
      responseWrittenBytes := side.replyLoopData.responseWrittenBytes + data.length.toUInt64 }
    socketOut := side.socketOut ++ [.responseBody data] }

theorem write_frame (side : ReplySide) (data now : SharedString) :
    (write side data now).replyLoopData.requestId = side.replyLoopData.requestId ∧
      (write side data now).replyLoopData.requestBodyConsumed = side.replyLoopData.requestBodyConsumed :=
  appendResponseHeaders_frame side now

/-- Whether the content length or the transfer encoding of the headers matches
    the number of body bytes written. -/
def contentLengthMatches (headers : HttpResponseHeaders) (responseWrittenBytes : UInt64) : Bool :=
  if headers.contentLength = [] then headers.transferEncoding = constants.Chunked
  else loadIntFromDec headers.contentLength = some responseWrittenBytes

/-- Determine whether keep connection or not by checking content length -/
def checkKeepaliveByContentLength (side : ReplySide) : Bool :=
  contentLengthMatches side.processingContext.response.headers side.replyLoopData.responseWrittenBytes &&
    side.replyLoopData.requestBodyConsumed

/-- What follows the first handler in the reply loop: send response headers if
    not sent before, and check keepalive again. -/
def finishResponse (side : ReplySide) (now : SharedString) : ReplySide :=
  let side := appendResponseHeaders side now
  { side with replyLoopData := { side.replyLoopData with
      keepConnection := side.replyLoopData.keepConnection && checkKeepaliveByContentLength side } }

theorem finishResponse_frame (side : ReplySide) (now : SharedString) :
    (finishResponse side now).replyLoopData.requestId = side.replyLoopData.requestId ∧
      (finishResponse side now).replyLoopData.requestBodyConsumed = side.replyLoopData.requestBodyConsumed :=
  appendResponseHeaders_frame side now

theorem finishResponse_keepConnection {side : ReplySide} {now : SharedString}
    (hkeep : (finishResponse side now).replyLoopData.keepConnection = true) :
    side.replyLoopData.requestBodyConsumed = true := by
  simp only [finishResponse, checkKeepaliveByContentLength, Bool.and_eq_true] at hkeep
  rw [← (appendResponseHeaders_frame side now).2]
  exact hkeep.2.2

end cpv
