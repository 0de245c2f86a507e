import Cpv.Core.BoundedQueue
import Cpv.Core.Machine
import Cpv.Connection.Parser
import Cpv.Connection.Response

namespace cpv

/-- The settings a connection reads. -/
structure HttpServerConfiguration where
  maxInitialRequestBytes : Nat := 524288
  maxInitialRequestPackets : Nat := 512
  requestQueueSize : Nat := 100
  requestBodyQueueSize : Nat := 50

/-- A received request whose headers completed (notice body may not completed) -/
structure RequestEntry where
  request : HttpRequest
  id : UInt32
  hasBody : Bool

/-- A received body buffer. -/
structure BodyEntry where
  buffer : SharedString
  id : UInt32
  isEnd : Bool

/-- Where the receive loop stands between two continuations. -/
inductive ReceivePoint
  | idle
  | loop
  | reading
  | received (buffer : List ParserToken)
  | enqueueBody
  | pushingBody (entry : BodyEntry)
  | enqueueRequest (hasBody : Bool)
  | pushingRequest (entry : RequestEntry)
  | failed
  | done

/-- Where the reply loop stands between two continuations. -/
inductive ReplyPoint
  | idle
  | loop
  | popping
  | handling
  | readingBody
  | flushing
  | failed
  | done
deriving DecidableEq

/-- How sending to the socket ends: sent, or failed, in which case the future may
    have been available at once. -/
inductive SendResult
  | sent
  | failed (available : Bool)
deriving DecidableEq

/-- What one call of the first handler was given, and what it read from the
    body stream so far. -/
structure HandlerCall where
  request : HttpRequest
  chunks : List SharedString := []
  ended : Bool := false

/-- Connection accepted from http client uses http 1.0/1.1 protocol. The bytes
    still to come from the socket, what was put into it and the handler calls
    made so far are part of the state. -/
structure Http11ServerConnection where
  configuration : HttpServerConfiguration
  receive : ReceiveSide
  reply : ReplySide
  requestQueue : BoundedQueue RequestEntry
  requestBodyQueue : BoundedQueue BodyEntry
  nextRequestBuffer : List ParserToken
  lastErrorResponse : SharedString
  parserErrno : HttpErrno
  receivePoint : ReceivePoint
  replyPoint : ReplyPoint
  finished : Bool
  detectTimeoutFlag : Bool
  socketIn : List (List ParserToken)
  calls : List HandlerCall
  idMismatch : Bool

namespace ErrorResponse

def head (contentLength : String) : SharedString :=
  text "HTTP/1.0 400 Bad Request" ++ constants.CRLF ++
    text "Content-Type: text/plain;charset=utf-8" ++ constants.CRLF ++
    text "Content-Length: " ++ text contentLength ++ constants.CRLF ++
    text "Connection: close" ++ constants.CRLFCRLF

def ReachedBytesLimitationOfInitialRequestData : SharedString :=
  head "58" ++ text "Error: reached bytes limitation of initial request data." ++ constants.CRLF

def ReachedPacketsLimitationOfInitialRequestData : SharedString :=
  head "60" ++ text "Error: reached packets limitation of initial request data." ++ constants.CRLF

def InvalidHttpRequestFormat : SharedString :=
  head "37" ++ text "Error: invalid http request format." ++ constants.CRLF

end ErrorResponse

namespace Http11ServerConnection

/-- A connection of an accepted socket, before `start`. -/
def new (configuration : HttpServerConfiguration) (socketIn : List (List ParserToken)) :
    Http11ServerConnection where
  configuration
  receive := {}
  reply := {}
  requestQueue := .new configuration.requestQueueSize
  requestBodyQueue := .new configuration.requestBodyQueueSize
  nextRequestBuffer := []
  lastErrorResponse := []
  parserErrno := .HPE_OK
  receivePoint := .idle
  replyPoint := .idle
  finished := false
  detectTimeoutFlag := false
  socketIn
  calls := []
  idMismatch := false

/-- Start receive requests and send responses: spawn both loops. -/
def start (self : Http11ServerConnection) : Option Http11ServerConnection :=
  if self.receive.state = .Initial then
    some { self with
      receive := { self.receive with state := .Started }
      receivePoint := .loop
      replyPoint := .loop }
  else none

/-- Shutdown connection, break receive and reply loop -/
def shutdown (self : Http11ServerConnection) : Http11ServerConnection :=
  if self.receive.state = .Closing then self
  else { self with
    requestQueue := self.requestQueue.abort
    requestBodyQueue := self.requestBodyQueue.abort
    receive := { self.receive with state := .Closing } }

/-- Shut down because of what was received, with the error response for the client. -/
def refuse (self : Http11ServerConnection) (errorResponse : SharedString) : Http11ServerConnection :=
  { { self with lastErrorResponse := errorResponse }.shutdown with receivePoint := .done }

/-- Keep receiving requests until state become closing, will push requests to a queue -/
def receiveRequestLoop (self : Http11ServerConnection) : Http11ServerConnection :=
  if self.receive.state = .Closing then { self with receivePoint := .done }
  else
    -- reset request data if previous request completed
    let self := if self.receive.state = .ReceiveRequestMessageComplete then
      { self with
        receive := {
          state := .Started
          newRequest := {}
          receiveLoopData := { requestId := self.receive.receiveLoopData.requestId + 1 } }
        parserErrno := .HPE_OK }
    else self
    if bufferSize self.nextRequestBuffer = 0 then { self with receivePoint := .reading }
    else { self with receivePoint := .received self.nextRequestBuffer, nextRequestBuffer := [] }

/-- Execute http parser on the last buffer and check parse result -/
def executeParser (self : Http11ServerConnection) (buffer : List ParserToken) : Http11ServerConnection :=
  let result := http_parser_execute self.receive self.parserErrno buffer
  let self := { self with receive := result.side, parserErrno := result.errno }
  let enqueuing := { self with receivePoint :=
    if self.receive.receiveLoopData.bodyBuffers = [] then .enqueueRequest false else .enqueueBody }
  if result.parsedSize = bufferSize buffer then enqueuing
  else if result.errno = .HPE_CB_message_begin ∧ 1 < result.parsedSize ∧
      self.receive.state = .ReceiveRequestMessageComplete then
    -- received next request from pipeline
    { enqueuing with nextRequestBuffer := result.rest }
  else self.refuse ErrorResponse.InvalidHttpRequestFormat

/-- Count the bytes and the packets of initial request data. -/
def countInitialRequest (self : Http11ServerConnection) (buffer : List ParserToken) :
    Http11ServerConnection :=
  { self with receive := { self.receive with receiveLoopData := { self.receive.receiveLoopData with
    receivedBytes := self.receive.receiveLoopData.receivedBytes + bufferSize buffer
    receivedPackets := self.receive.receiveLoopData.receivedPackets + 1 } } }

/-- The continuation of the receive loop for a buffer that was read. -/
def receiveBuffer (self : Http11ServerConnection) (buffer : List ParserToken) : Http11ServerConnection :=
  let self := { self with detectTimeoutFlag := false }
  if bufferSize buffer = 0 then { self.shutdown with receivePoint := .done }
  else if self.receive.state = .ReceiveRequestBody then self.executeParser buffer
  else
    let self := self.countInitialRequest buffer
    if self.configuration.maxInitialRequestBytes < self.receive.receiveLoopData.receivedBytes then
      self.refuse ErrorResponse.ReachedBytesLimitationOfInitialRequestData
    else if self.configuration.maxInitialRequestPackets < self.receive.receiveLoopData.receivedPackets then
      self.refuse ErrorResponse.ReachedPacketsLimitationOfInitialRequestData
    else self.executeParser buffer

/-- The entry of the body buffer at an index. -/
def bodyEntry (self : Http11ServerConnection) (index : Nat) (buffer : SharedString) : BodyEntry where
  buffer
  id := self.receive.receiveLoopData.requestId
  isEnd := index + 1 = self.receive.receiveLoopData.bodyBuffers.length ∧
    self.receive.state = .ReceiveRequestMessageComplete

/-- Push a body entry, or wait until it can be pushed. -/
def pushBody (self : Http11ServerConnection) (entry : BodyEntry) : Http11ServerConnection :=
  match self.requestBodyQueue.pushEventually entry with
  | .ready requestBodyQueue => { self with requestBodyQueue, receivePoint := .enqueueBody }
  | .failed => { self with receivePoint := .failed }
  | .pending => { self with receivePoint := .pushingBody entry }

/-- (for receive loop) Enqueue body buffers to queue -/
def enqueueBodyBuffers (self : Http11ServerConnection) : Http11ServerConnection :=
  let data := self.receive.receiveLoopData
  match data.bodyBuffers[data.bodyBufferEnqueueIndex]? with
  | none =>
    { self with
      receive := { self.receive with receiveLoopData := { data with
        bodyBuffers := [], bodyBufferEnqueueIndex := 0 } }
      receivePoint := .enqueueRequest true }
  | some buffer =>
    let entry := self.bodyEntry data.bodyBufferEnqueueIndex buffer
    { self with receive := { self.receive with receiveLoopData := { data with
      bodyBufferEnqueueIndex := data.bodyBufferEnqueueIndex + 1 } } }.pushBody entry

/-- (for receive loop) Enqueue request to queue when headers completed, and continue receiving -/
def enqueueRequestAndContinueReceiving (self : Http11ServerConnection) (hasBody : Bool) :
    Http11ServerConnection :=
  let data := self.receive.receiveLoopData
  if data.requestEnqueued = false ∧ self.receive.state.headersCompleted then
    let entry : RequestEntry := {
      request := self.receive.newRequest
      id := data.requestId
      hasBody := hasBody || self.receive.state != .ReceiveRequestMessageComplete }
    let self := { self with receive := { self.receive with
      newRequest := {}, receiveLoopData := { data with requestEnqueued := true } } }
    match self.requestQueue.pushEventually entry with
    | .ready requestQueue => { self with requestQueue, receivePoint := .loop }
    | .failed => { self with receivePoint := .loop }
    | .pending => { self with receivePoint := .pushingRequest entry }
  else { self with receivePoint := .loop }

/-- The next continuation of the receive loop, `none` while it has to wait. A
    shut down input ends once nothing is left to read. -/
def receiveStep (self : Http11ServerConnection) : Option Http11ServerConnection :=
  match self.receivePoint with
  | .idle | .done => none
  | .loop => some self.receiveRequestLoop
  | .reading =>
    match self.socketIn with
    | [] => if self.receive.state = .Closing then some { self with receivePoint := .received [] } else none
    | buffer :: socketIn => some { self with socketIn, receivePoint := .received buffer }
  | .received buffer => some (self.receiveBuffer buffer)
  | .enqueueBody => some self.enqueueBodyBuffers
  | .pushingBody entry =>
    match self.requestBodyQueue.pushEventually entry with
    | .ready requestBodyQueue => some { self with requestBodyQueue, receivePoint := .enqueueBody }
    | .failed => some { self with receivePoint := .failed }
    | .pending => none
  | .enqueueRequest hasBody => some (self.enqueueRequestAndContinueReceiving hasBody)
  | .pushingRequest entry =>
    match self.requestQueue.pushEventually entry with
    | .ready requestQueue => some { self with requestQueue, receivePoint := .loop }
    | .failed => some { self with receivePoint := .failed }
    | .pending => none
  | .failed => some { self.shutdown with receivePoint := .done }

/-- Set up the processing context and invoke the first handler. -/
def handleRequest (self : Http11ServerConnection) (entry : RequestEntry) : Http11ServerConnection :=
  { self with
    reply := { self.reply with
      processingContext := { request := entry.request, response := {} }
      replyLoopData := { requestId := entry.id, requestBodyConsumed := !entry.hasBody } }
    replyPoint := .handling
    calls := self.calls ++ [{ request := entry.request }] }

/-- What the stream hands to the handler, recorded in its call. -/
def readResult (self : Http11ServerConnection) (data : SharedString) (isEnd : Bool) :
    Http11ServerConnection :=
  { self with
    replyPoint := .handling
    calls := self.calls.modify (self.calls.length - 1) fun call =>
      { call with chunks := call.chunks ++ [data], ended := call.ended || isEnd } }

/-- Check that a body entry belongs to the processing request. -/
def handleBodyEntry (self : Http11ServerConnection) (entry : BodyEntry) : Http11ServerConnection :=
  if entry.id ≠ self.reply.replyLoopData.requestId then
    { self with replyPoint := .handling, idMismatch := true }
  else
    { self with reply := { self.reply with replyLoopData := { self.reply.replyLoopData with
      requestBodyConsumed := self.reply.replyLoopData.requestBodyConsumed || entry.isEnd } } }.readResult
      entry.buffer entry.isEnd

/-- Read data from stream. A failed read leaves the handler running. -/
def read (self : Http11ServerConnection) : Http11ServerConnection :=
  if self.reply.replyLoopData.requestBodyConsumed then self.readResult [] true
  else match self.requestBodyQueue.popEventually with
    | .ready (entry, requestBodyQueue) => { self with requestBodyQueue }.handleBodyEntry entry
    | .failed => { self with replyPoint := .handling }
    | .pending => { self with replyPoint := .readingBody }

/-- Keep reply responses until state become closing, will pop requests from the
    queue. A pending error response is sent once the connection is closing. -/
def replyResponseLoop (self : Http11ServerConnection) (result : SendResult) :
    Http11ServerConnection :=
  if self.receive.state = .Closing then
    if self.lastErrorResponse = [] then { self with replyPoint := .done }
    else { self with
      lastErrorResponse := []
      reply := { self.reply with socketOut :=
        if result = .sent then self.reply.socketOut ++ [.errorResponse self.lastErrorResponse]
        else self.reply.socketOut }
      replyPoint := .done }
  else match self.requestQueue.popEventually with
    | .ready (entry, requestQueue) => { self with requestQueue }.handleRequest entry
    | .failed => { self with replyPoint := .failed }
    | .pending => { self with replyPoint := .popping }

/-- The next continuation of the reply loop, `none` while it has to wait for a
    queue or for the handler. `result` tells how the socket took its data: of a
    persistent response only a failure that is not available yet is noticed. -/
def replyStep (self : Http11ServerConnection) (result : SendResult) : Option Http11ServerConnection :=
  match self.replyPoint with
  | .idle | .handling | .done => none
  | .loop => some (self.replyResponseLoop result)
  | .popping =>
    match self.requestQueue.popEventually with
    | .ready (entry, requestQueue) => some ({ self with requestQueue }.handleRequest entry)
    | .failed => some { self with replyPoint := .failed }
    | .pending => none
  | .readingBody =>
    match self.requestBodyQueue.popEventually with
    | .ready (entry, requestBodyQueue) => some ({ self with requestBodyQueue }.handleBodyEntry entry)
    | .failed => some { self with replyPoint := .handling }
    | .pending => none
  | .flushing =>
    if self.reply.replyLoopData.keepConnection then
      if result = .failed false then some { self with replyPoint := .failed }
      else some { self with replyPoint := .loop }
    else
      if result = .sent then some { self.shutdown with replyPoint := .loop }
      else some { self with replyPoint := .failed }
  | .failed => some { self.shutdown with replyPoint := .loop }

end Http11ServerConnection

/-- What a running handler does next: read one body chunk, change the request
    or the response, write to the response stream, complete or fail. `now` is
    the clock's text for the date header. -/
inductive HandlerAction
  | read
  | modify (change : HttpContext → HttpContext)
  | write (data now : SharedString)
  | finish (now : SharedString)
  | throw

namespace Http11ServerConnection

/-- One action of the running handler. -/
def handlerStep (self : Http11ServerConnection) (action : HandlerAction) : Option Http11ServerConnection :=
  if self.replyPoint = .handling then
    match action with
    | .read => some self.read
    | .modify change =>
      some { self with reply := { self.reply with processingContext := change self.reply.processingContext } }
    | .write data now =>
      some { self with reply := cpv.write self.reply data now, detectTimeoutFlag := false }
    | .finish now =>
      some { self with
        reply := finishResponse self.reply now
        detectTimeoutFlag := false
        replyPoint := .flushing }
    | .throw => some { self with replyPoint := .failed }
  else none

/-- The continuation of both loops: update state to closed. -/
def close (self : Http11ServerConnection) : Option Http11ServerConnection :=
  match self.receivePoint, self.replyPoint, self.finished with
  | .done, .done, false =>
    some { self with receive := { self.receive with state := .Closed }, finished := true }
  | _, _, _ => none

/-- Invoke when timeout is detected from HttpServer's timer -/
def onTimeout (self : Http11ServerConnection) : Http11ServerConnection := self.shutdown

/-- Stop the connection immediately, before waiting until it is closed -/
def stop (self : Http11ServerConnection) : Http11ServerConnection := self.shutdown

/-- Who takes the next step: one of the loops, the running handler, the timer or
    a stopping server, or the continuation of both loops. -/
inductive Label
  | receive
  | reply (result : SendResult)
  | handler (action : HandlerAction)
  | shutdown
  | close

/-- One step of a started connection. -/
def step (self : Http11ServerConnection) : Label → Option Http11ServerConnection
  | .receive => self.receiveStep
  | .reply result => self.replyStep result
  | .handler action => self.handlerStep action
  | .shutdown => some self.shutdown
  | .close => self.close

end Http11ServerConnection

end cpv
