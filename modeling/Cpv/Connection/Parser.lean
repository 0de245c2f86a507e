import Cpv.Http.Context

namespace cpv

/-- The state of a http 1.0/1.1 connection, only for receive loop -/
inductive Http11ServerConnectionState
  | Initial
  | Started
  | ReceiveRequestMessageBegin
  | ReceiveRequestUrl
  | ReceiveRequestHeaderField
  | ReceiveRequestHeaderValue
  | ReceiveRequestHeadersComplete
  | ReceiveRequestBody
  | ReceiveRequestMessageComplete
  | Closing
  | Closed
deriving DecidableEq, Repr

/-- Whether the headers of the current request are complete. -/
def Http11ServerConnectionState.headersCompleted : Http11ServerConnectionState → Bool
  | .ReceiveRequestHeadersComplete | .ReceiveRequestBody | .ReceiveRequestMessageComplete => true
  | _ => false

/-- per request data for receive loop -/
structure ReceiveLoopData where
  requestId : UInt32 := 0
  receivedBytes : Nat := 0
  receivedPackets : Nat := 0
  url : SharedString := []
  headerField : SharedString := []
  headerValue : SharedString := []
  bodyBuffers : List SharedString := []
  bodyBufferEnqueueIndex : Nat := 0
  requestEnqueued : Bool := false

/-- The part of the connection that the parser callbacks work on. -/
structure ReceiveSide where
  state : Http11ServerConnectionState := .Initial
  newRequest : HttpRequest := {}
  receiveLoopData : ReceiveLoopData := {}

/-- What http_parser reports while it scans a buffer. Bytes without a callback
    are `skip`, and `error` is an error of the parser itself. The values of
    `headersComplete` are the parser's own fields at that point. -/
inductive ParserEvent
  | skip
  | messageBegin
  | url (data : SharedString)
  | headerField (data : SharedString)
  | headerValue (data : SharedString)
  | headersComplete (method : SharedString) (http_major http_minor : Nat)
  | body (data : SharedString)
  | messageComplete
  | error

/-- Get http version string from parser -/
def getHttpVersionString (http_major http_minor : Nat) : SharedString :=
  if http_major = 1 ∧ http_minor = 1 then constants.Http11
  else if http_major = 1 ∧ http_minor = 0 then constants.Http10
  else if http_major = 1 ∧ http_minor = 2 then constants.Http12
  else text "HTTP/" ++ fromInt http_major ++ text "." ++ fromInt http_minor

namespace ReceiveSide

/-- Store the last header field and value into the new request. -/
def storeHeader (side : ReceiveSide) : ReceiveSide :=
  let data := side.receiveLoopData
  { side with
    newRequest := { side.newRequest with
      headers := side.newRequest.headers.setHeader data.headerField data.headerValue }
    receiveLoopData := { data with headerField := [], headerValue := [] } }

def on_message_begin (side : ReceiveSide) : Option ReceiveSide :=
  match side.state with
  | .Started => some { side with state := .ReceiveRequestMessageBegin }
  | _ => none

def on_url (side : ReceiveSide) (data : SharedString) : Option ReceiveSide :=
  match side.state with
  | .ReceiveRequestMessageBegin =>
    some { side with state := .ReceiveRequestUrl, receiveLoopData := { side.receiveLoopData with url := data } }
  | .ReceiveRequestUrl =>
    some { side with receiveLoopData := { side.receiveLoopData with url := side.receiveLoopData.url ++ data } }
  | _ => none

def on_header_field (side : ReceiveSide) (data : SharedString) : Option ReceiveSide :=
  match side.state with
  | .ReceiveRequestHeaderValue =>
    let side := side.storeHeader
    some { side with
      state := .ReceiveRequestHeaderField
      receiveLoopData := { side.receiveLoopData with headerField := data } }
  | .ReceiveRequestUrl =>
    some { side with
      state := .ReceiveRequestHeaderField
      receiveLoopData := { side.receiveLoopData with headerField := data } }
  | .ReceiveRequestHeaderField =>
    some { side with receiveLoopData := { side.receiveLoopData with
      headerField := side.receiveLoopData.headerField ++ data } }
  | _ => none

def on_header_value (side : ReceiveSide) (data : SharedString) : Option ReceiveSide :=
  match side.state with
  | .ReceiveRequestHeaderField =>
    some { side with
      state := .ReceiveRequestHeaderValue
      receiveLoopData := { side.receiveLoopData with headerValue := data } }
  | .ReceiveRequestHeaderValue =>
    some { side with receiveLoopData := { side.receiveLoopData with
      headerValue := side.receiveLoopData.headerValue ++ data } }
  | _ => none

/-- Store method, url and version into the new request. -/
def storeRequestLine (side : ReceiveSide) (method : SharedString) (http_major http_minor : Nat) :
    ReceiveSide :=
  { side with
    state := .ReceiveRequestHeadersComplete
    newRequest := { side.newRequest with
      method, url := side.receiveLoopData.url, version := getHttpVersionString http_major http_minor }
    receiveLoopData := { side.receiveLoopData with url := [] } }

def on_headers_complete (side : ReceiveSide) (method : SharedString) (http_major http_minor : Nat) :
    Option ReceiveSide :=
  match side.state with
  | .ReceiveRequestHeaderValue => some (side.storeHeader.storeRequestLine method http_major http_minor)
  | .ReceiveRequestUrl => some (side.storeRequestLine method http_major http_minor)
  | _ => none

def on_body (side : ReceiveSide) (data : SharedString) : Option ReceiveSide :=
  match side.state with
  | .ReceiveRequestHeadersComplete | .ReceiveRequestBody =>
    some { side with
      state := .ReceiveRequestBody
      receiveLoopData := { side.receiveLoopData with
        bodyBuffers := side.receiveLoopData.bodyBuffers ++ [data] } }
  | _ => none

def on_message_complete (side : ReceiveSide) : Option ReceiveSide :=
  match side.state with
  | .ReceiveRequestHeadersComplete | .ReceiveRequestBody =>
    -- an enqueued request without body data gets an empty tail, so that its stream can finish
    let bodyBuffers := if side.receiveLoopData.requestEnqueued ∧ side.receiveLoopData.bodyBuffers = [] then
      [[]] else side.receiveLoopData.bodyBuffers
    some { side with
      state := .ReceiveRequestMessageComplete
      receiveLoopData := { side.receiveLoopData with bodyBuffers } }
  | _ => none

/-- Run the callback of an event, `none` where it returns an error. -/
def callback (side : ReceiveSide) : ParserEvent → Option ReceiveSide
  | .skip => some side
  | .messageBegin => side.on_message_begin
  | .url data => side.on_url data
  | .headerField data => side.on_header_field data
  | .headerValue data => side.on_header_value data
  | .headersComplete method http_major http_minor => side.on_headers_complete method http_major http_minor
  | .body data => side.on_body data
  | .messageComplete => side.on_message_complete
  | .error => none

end ReceiveSide

/-- An event with the bytes the parser consumes from the event before it until
    this one is reported. -/
structure ParserToken where
  event : ParserEvent
  bytes : Nat

/-- The number of bytes of a buffer. -/
def bufferSize (buffer : List ParserToken) : Nat := (buffer.map (·.bytes)).sum

/-- Error numbers of http_parser, as far as the receive loop tells them apart. -/
inductive HttpErrno
  | HPE_OK
  | HPE_CB_message_begin
  | HPE_other
deriving DecidableEq

/-- The error number set when an event is refused. -/
def ParserEvent.errno : ParserEvent → HttpErrno
  | .messageBegin => .HPE_CB_message_begin
  | _ => .HPE_other

/-- The bytes counted as consumed when an event is refused. A callback that
    fails counts the byte that triggered it, an error of the parser itself does not. -/
def ParserToken.bytesRefused (token : ParserToken) : Nat :=
  match token.event with
  | .error => token.bytes - 1
  | _ => token.bytes

/-- What http_parser_execute leaves behind: the callbacks' state, the error
    number, the size it returns, and the tokens from the byte it stopped at. -/
structure ExecuteResult where
  side : ReceiveSide
  errno : HttpErrno
  parsedSize : Nat
  rest : List ParserToken

/-- The scanning loop of http_parser_execute, which ends at a refused event. -/
def httpParserScan (side : ReceiveSide) (parsedSize : Nat) : List ParserToken → ExecuteResult
  | [] => { side, errno := .HPE_OK, parsedSize, rest := [] }
  | token :: tokens =>
    match side.callback token.event with
    | some next => httpParserScan next (parsedSize + token.bytes) tokens
    | none =>
      { side, errno := token.event.errno, parsedSize := parsedSize + token.bytesRefused
        rest := { token with bytes := 1 } :: tokens }

/-- A parser in an error state does not parse at all. -/
def http_parser_execute (side : ReceiveSide) (errno : HttpErrno) (buffer : List ParserToken) :
    ExecuteResult :=
  if errno = .HPE_OK then httpParserScan side 0 buffer
  else { side, errno, parsedSize := 0, rest := buffer }

end cpv
