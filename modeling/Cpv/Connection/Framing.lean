import Cpv.Connection.Pipelining

namespace cpv

/-- What a chain of handlers does to the response of one request: change the
    request or the response, write body data, or read the request body's end. -/
inductive ResponseAction
  | modify (change : HttpContext → HttpContext)
  | write (data now : SharedString)
  | consume

namespace ReplySide

/-- The reply side of a connection when its first handler is invoked. -/
def invoked (socketOut : List OutputEvent) (request : HttpRequest) (requestId : UInt32) (hasBody : Bool) :
    ReplySide where
  processingContext := { request, response := {} }
  replyLoopData := { requestId, requestBodyConsumed := !hasBody }
  socketOut

def act (side : ReplySide) : ResponseAction → ReplySide
  | .modify change => { side with processingContext := change side.processingContext }
  | .write data now => cpv.write side data now
  | .consume => { side with replyLoopData := { side.replyLoopData with requestBodyConsumed := true } }

/-- The whole response: what the handlers do, and what follows their completion. -/
def respond (side : ReplySide) (actions : List ResponseAction) (now : SharedString) : ReplySide :=
  finishResponse (actions.foldl act side) now

end ReplySide

/-- The body data some actions write. -/
def writtenData (actions : List ResponseAction) : List SharedString :=
  actions.flatMap fun action => match action with
    | .write data _ => [data]
    | _ => []

/-- The number of body bytes some actions write. -/
def writtenBytes (actions : List ResponseAction) : Nat := (writtenData actions).flatten.length

/-- Whether some actions read the request body's end. -/
def consumes (actions : List ResponseAction) : Bool :=
  actions.any fun action => match action with
    | .consume => true
    | _ => false

/-- The context some actions leave after the header block was sent. -/
def modified (context : HttpContext) (actions : List ResponseAction) : HttpContext :=
  actions.foldl (fun context action => match action with
    | .modify change => change context
    | _ => context) context

/-- The response and the persistence decision at the first write, or at the
    completion of handlers that write nothing. -/
def sentResponse (context : HttpContext) (now : SharedString) :
    List ResponseAction → HttpResponse × Bool
  | [] => prepareResponse context now
  | .modify change :: actions => sentResponse (change context) now actions
  | .write _ now :: _ => prepareResponse context now
  | .consume :: actions => sentResponse context now actions

/-- The headers the handlers leave when they complete. -/
def finalHeaders (context : HttpContext) (now : SharedString) : List ResponseAction → HttpResponseHeaders
  | [] => (prepareResponse context now).1.headers
  | .modify change :: actions => finalHeaders (change context) now actions
  | .write _ now :: actions =>
    (modified { context with response := (prepareResponse context now).1 } actions).response.headers
  | .consume :: actions => finalHeaders context now actions

/-- Headers that delimit a body of some length: by its length in decimal, or as
    chunks. -/
def Delimits (headers : HttpResponseHeaders) (length : Nat) : Prop :=
  decimalValue headers.contentLength = some length ∨
    (headers.contentLength = [] ∧ headers.transferEncoding = constants.Chunked)

instance (headers : HttpResponseHeaders) (length : Nat) : Decidable (Delimits headers length) :=
  inferInstanceAs (Decidable (_ ∨ _))

/-- A well framed response: one header block before any body data, and when the
    connection is kept, a header block that says so and delimits the body. -/
def Framed (before : List OutputEvent) (after : ReplySide) : Prop :=
  ∃ (response : HttpResponse) (body : List SharedString),
    after.socketOut = before ++ OutputEvent.responseHeaders response :: body.map .responseBody ∧
    (after.replyLoopData.keepConnection = true →
      response.headers.connection = constants.Keepalive ∧ Delimits response.headers body.flatten.length)

/-- Whatever passes the keepalive check in the end was already in the header
    block that was sent: unless the request forbids persistence or has body data
    left, framing headers that match the written bytes modulo 2^64 when the
    handlers complete have to match them exactly at the first write. -/
def FramedInTime (request : HttpRequest) (hasBody : Bool) (actions : List ResponseAction)
    (now : SharedString) : Prop :=
  let context : HttpContext := { request, response := {} }
  (sentResponse context now actions).2 = true → (hasBody = false ∨ consumes actions = true) →
    contentLengthMatches (finalHeaders context now actions) (UInt64.ofNat (writtenBytes actions)) = true →
      Delimits (sentResponse context now actions).1.headers (writtenBytes actions)

/-- Framing headers that stay as they were at the first write, and lengths that
    fit 64 bits, make a well framed response. -/
theorem framedInTime_of_unchanged {request : HttpRequest} {hasBody : Bool} {actions : List ResponseAction}
    {now : SharedString}
    (hlength : (finalHeaders { request } now actions).contentLength =
      (sentResponse { request } now actions).1.headers.contentLength)
    (hencoding : (finalHeaders { request } now actions).transferEncoding =
      (sentResponse { request } now actions).1.headers.transferEncoding)
    (hvalue : ∀ value ∈ decimalValue (sentResponse { request } now actions).1.headers.contentLength,
      value < 2 ^ 64)
    (hwritten : writtenBytes actions < 2 ^ 64) : FramedInTime request hasBody actions now := by
  intro _ _ hmatches
  simp only [contentLengthMatches, hlength, hencoding] at hmatches
  split at hmatches
  · rename_i hempty
    exact .inr ⟨hempty, by simpa using hmatches⟩
  · rename_i hcontentLength
    rw [loadIntFromDec_eq hcontentLength, decide_eq_true_eq] at hmatches
    obtain ⟨value, hdecimal, hwrap⟩ := Option.map_eq_some_iff.mp hmatches
    have hsmall := hvalue value hdecimal
    have heq : value = writtenBytes actions := by
      have := congrArg UInt64.toNat hwrap
      rwa [UInt64.toNat_ofNat_of_lt' hsmall, UInt64.toNat_ofNat_of_lt' hwritten] at this
    exact .inl (heq ▸ hdecimal)

namespace extensions

/-- Reply text or binary contents to http response in once -/
def reply (content mimeType statusCode statusMessage now : SharedString) : List ResponseAction := [
  .modify fun context => { context with response := { context.response with
    statusCode, statusMessage
    headers := { context.response.headers with
      contentType := mimeType, contentLength := fromInt content.length } } },
  .write content now]

end extensions

namespace HttpServerRequest500Handler

/-- The response to an exception of the following handlers, with an error id. -/
def reply500Response (uuid now : SharedString) : List ResponseAction :=
  extensions.reply (constants.InternalServerError ++ text "\nID: " ++ uuid) constants.TextPlainUtf8
    constants._500 constants.InternalServerError now

/-- What the handler does: the actions of the following handlers, and if these
    end with an exception the response to it. -/
def handle (actions : List ResponseAction) (failed : Bool) (uuid now : SharedString) : List ResponseAction :=
  if failed then actions ++ reply500Response uuid now else actions

end HttpServerRequest500Handler

namespace Http11ServerConnection

variable {self after : Http11ServerConnection}

/-- The reply side of a connection that processes a request shows nothing but
    the actions of its handlers. -/
def ResponseTraced (self : Http11ServerConnection) : Prop :=
  (self.replyPoint = .handling ∨ self.replyPoint = .readingBody →
    ∃ socketOut request requestId hasBody actions, self.reply =
      List.foldl ReplySide.act (ReplySide.invoked socketOut request requestId hasBody) actions) ∧
  (self.replyPoint = .flushing → ∃ socketOut request requestId hasBody actions now,
    self.reply = (ReplySide.invoked socketOut request requestId hasBody).respond actions now)

theorem ResponseTraced.of_replyState (htraced : self.ResponseTraced)
    (hstate : after.replyState = self.replyState) : after.ResponseTraced := by
  simp only [replyState, Prod.mk.injEq] at hstate
  obtain ⟨-, hreply, hpoint, -⟩ := hstate
  rw [ResponseTraced, hreply, hpoint]
  exact htraced

/-- One more action of the running handlers. -/
theorem ResponseTraced.act (htraced : self.ResponseTraced)
    (hrunning : self.replyPoint = .handling ∨ self.replyPoint = .readingBody) (action : ResponseAction)
    (hreply : after.reply = self.reply.act action) (hpoint : after.replyPoint ≠ .flushing) :
    after.ResponseTraced := by
  obtain ⟨socketOut, request, requestId, hasBody, actions, hactions⟩ := htraced.1 hrunning
  refine ⟨fun _ => ⟨socketOut, request, requestId, hasBody, actions ++ [action], ?_⟩,
    fun h => absurd h hpoint⟩
  rw [hreply, hactions, List.foldl_append]
  rfl

theorem ResponseTraced.same (htraced : self.ResponseTraced)
    (hrunning : self.replyPoint = .handling ∨ self.replyPoint = .readingBody)
    (hreply : after.reply = self.reply) (hpoint : after.replyPoint ≠ .flushing) : after.ResponseTraced :=
  ⟨fun _ => hreply ▸ htraced.1 hrunning, fun h => absurd h hpoint⟩

theorem responseTraced_of_idle (hpoint : ¬after.processing) : after.ResponseTraced :=
  ⟨fun h => absurd (h.imp_right Or.inl) hpoint, fun h => absurd (.inr (.inr h)) hpoint⟩

theorem handleRequest_responseTraced (self : Http11ServerConnection) (entry : RequestEntry) :
    (self.handleRequest entry).ResponseTraced :=
  ⟨fun _ => ⟨self.reply.socketOut, entry.request, entry.id, entry.hasBody, [], rfl⟩,
    fun h => by simp [handleRequest] at h⟩

theorem ResponseTraced.handleBodyEntry (htraced : self.ResponseTraced)
    (hrunning : self.replyPoint = .handling ∨ self.replyPoint = .readingBody) (entry : BodyEntry)
    (requestBodyQueue : BoundedQueue BodyEntry) :
    ({ self with requestBodyQueue }.handleBodyEntry entry).ResponseTraced := by
  unfold Http11ServerConnection.handleBodyEntry
  split
  · exact htraced.same hrunning rfl (by simp)
  · cases hend : entry.isEnd with
    | true =>
      refine htraced.act hrunning .consume ?_ (by simp [readResult])
      simp [readResult, ReplySide.act]
    | false =>
      refine htraced.same hrunning ?_ (by simp [readResult])
      simp [readResult]

theorem ResponseTraced.replyStep {result : SendResult} (htraced : self.ResponseTraced)
    (hstep : self.replyStep result = some after) : after.ResponseTraced := by
  unfold Http11ServerConnection.replyStep at hstep
  split at hstep
  · cases hstep
  · cases hstep
  · cases hstep
  · simp only [replyResponseLoop, Option.some.injEq] at hstep
    split at hstep
    · split at hstep <;> exact hstep ▸ responseTraced_of_idle (by simp [processing])
    · split at hstep
      · exact hstep ▸ handleRequest_responseTraced _ _
      · exact hstep ▸ responseTraced_of_idle (by simp [processing])
      · exact hstep ▸ responseTraced_of_idle (by simp [processing])
  · split at hstep <;> cases hstep
    · exact handleRequest_responseTraced _ _
    · exact responseTraced_of_idle (by simp [processing])
  · rename_i hpoint
    split at hstep <;> cases hstep
    · exact htraced.handleBodyEntry (.inr hpoint) _ _
    · exact htraced.same (.inr hpoint) rfl (by simp)
  · split at hstep
    · split at hstep <;> cases hstep <;> exact responseTraced_of_idle (by simp [processing])
    · split at hstep <;> cases hstep <;> exact responseTraced_of_idle (by simp [processing])
  · exact Option.some.inj hstep ▸ responseTraced_of_idle (by simp [processing])

theorem ResponseTraced.handlerStep {action : HandlerAction} (htraced : self.ResponseTraced)
    (hstep : self.handlerStep action = some after) : after.ResponseTraced := by
  unfold Http11ServerConnection.handlerStep at hstep
  split at hstep
  · rename_i hpoint
    have hrunning : self.replyPoint = .handling ∨ self.replyPoint = .readingBody := .inl hpoint
    cases action with
    | read =>
      simp only [read, Option.some.injEq] at hstep
      split at hstep
      · exact hstep ▸ htraced.same hrunning rfl (by simp [readResult])
      · split at hstep
        · exact hstep ▸ htraced.handleBodyEntry hrunning _ _
        · exact hstep ▸ htraced.same hrunning rfl (by simp)
        · exact hstep ▸ htraced.same hrunning rfl (by simp)
    | modify change =>
      exact Option.some.inj hstep ▸ htraced.act hrunning (.modify change) rfl (by simp [hpoint])
    | write data now =>
      exact Option.some.inj hstep ▸ htraced.act hrunning (.write data now) rfl (by simp [hpoint])
    | finish now =>
      obtain ⟨socketOut, request, requestId, hasBody, actions, hactions⟩ := htraced.1 hrunning
      refine Option.some.inj hstep ▸ ⟨by simp, fun _ => ⟨socketOut, request, requestId, hasBody, actions, now, ?_⟩⟩
      rw [hactions]
      rfl
    | throw => exact Option.some.inj hstep ▸ responseTraced_of_idle (by simp [processing])
  · cases hstep

/-- Whenever the first handler of a connection completed, what the connection
    sent for the request is the response of some actions of its handlers. -/
theorem run_responseTraced {configuration : HttpServerConfiguration} {socketIn : List (List ParserToken)}
    {started final : Http11ServerConnection} {labels : List Label}
    (hstart : (new configuration socketIn).start = some started)
    (hrun : Machine.run step started labels = some final) : final.ResponseTraced := by
  have hstarted : started.ResponseTraced := by
    simp only [start, new, if_true, Option.some.injEq] at hstart
    subst hstart
    exact responseTraced_of_idle (by simp [processing])
  refine Machine.run_preserves (fun before label after hstep htraced => ?_) hrun hstarted
  cases label with
  | receive => exact htraced.of_replyState (receiveStep_replyState hstep)
  | reply result => exact htraced.replyStep hstep
  | handler action => exact htraced.handlerStep hstep
  | shutdown => exact Option.some.inj hstep ▸ htraced.of_replyState before.shutdown_replyState
  | close =>
    simp only [step, close] at hstep
    split at hstep <;> cases hstep
    exact htraced

end Http11ServerConnection

end cpv
