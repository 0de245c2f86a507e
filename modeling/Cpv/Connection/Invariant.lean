import Cpv.Core.Lanes
import Cpv.Connection.Model
import Cpv.Connection.Stream

namespace cpv

namespace Http11ServerConnection

/-- Everything that was sent to the connection and not parsed yet. -/
def unread (self : Http11ServerConnection) : List ParserToken :=
  (match self.receivePoint with
    | .received buffer => buffer
    | _ => []) ++ (self.nextRequestBuffer ++ self.socketIn.flatten)

/-- The body buffers of the current request that are not in the queue yet. -/
def unpushed (self : Http11ServerConnection) : List SharedString :=
  (match self.receivePoint with
    | .pushingBody entry => [entry.buffer]
    | _ => []) ++
    self.receive.receiveLoopData.bodyBuffers.drop self.receive.receiveLoopData.bodyBufferEnqueueIndex

/-- The receive side as the parser left it, without the body buffers that are in
    the queue already. -/
def parsedSide (self : Http11ServerConnection) : ReceiveSide :=
  { self.receive with receiveLoopData := { self.receive.receiveLoopData with bodyBuffers := self.unpushed } }

/-- Whether nothing more is going to be queued for the current request's body. -/
def bodyQueued (self : Http11ServerConnection) : Prop :=
  self.receive.state = .ReceiveRequestMessageComplete ∧ self.unpushed = []

/-- Whether the reply loop is busy with the last call of the first handler. -/
def processing (self : Http11ServerConnection) : Prop :=
  self.replyPoint = .handling ∨ self.replyPoint = .readingBody ∨ self.replyPoint = .flushing

/-- The number of requests that went through the request queue or are in it. -/
def enqueuedCount (self : Http11ServerConnection) (current : Nat) : Nat :=
  match self.receivePoint with
  | .pushingRequest _ => current
  | _ => if self.receive.receiveLoopData.requestEnqueued then current + 1 else current

end Http11ServerConnection

/-- What the connection's state stands for, request by request: whether the
    handler of a request still has body data to wait for, what the body queue
    holds of its body, and what was read of it. -/
structure Ledger where
  hasBody : Nat → Bool
  queued : Nat → List BodyEntry
  passed : Nat → SharedString

/-- The body data of some entries. -/
def bodyData (entries : List BodyEntry) : SharedString := entries.flatMap (·.buffer)

/-- How the queued part of a body ends: with the entry marked as its end once
    `ended`, unless the handler has nothing to wait for. -/
def QueuedEnd (hasBody : Bool) (ended : Prop) (entries : List BodyEntry) : Prop :=
  if hasBody then
    (ended ∧ ∃ init last, entries = init ++ [last] ∧ last.isEnd = true ∧ ∀ entry ∈ init, entry.isEnd = false) ∨
      (¬ended ∧ ∀ entry ∈ entries, entry.isEnd = false)
  else ended ∧ entries = []

theorem QueuedEnd.of_not_ended {hasBody : Bool} {ended : Prop} {entries : List BodyEntry}
    (hend : QueuedEnd hasBody ended entries) (hended : ¬ended) :
    hasBody = true ∧ ∀ entry ∈ entries, entry.isEnd = false := by
  cases hasBody with
  | false => exact absurd hend.1 hended
  | true => exact ⟨rfl, (hend.resolve_left fun h => hended h.1).2⟩

theorem QueuedEnd.of_iff {hasBody : Bool} {ended ended' : Prop} {entries : List BodyEntry}
    (hend : QueuedEnd hasBody ended entries) (hiff : ended ↔ ended') : QueuedEnd hasBody ended' entries := by
  rwa [← propext hiff]

/-- A request whose message ended without body data leaves its handler nothing
    to wait for. -/
def Ledger.withoutBody (ledger : Ledger) (index : Nat) : Ledger :=
  { ledger with hasBody := Function.update ledger.hasBody index false }

theorem Ledger.withoutBody_of_ne (ledger : Ledger) {index other : Nat} (hne : other ≠ index) :
    (ledger.withoutBody index).hasBody other = ledger.hasBody other :=
  Function.update_of_ne hne _ _

/-- One more body entry of a request is in the queue. -/
def Ledger.push (ledger : Ledger) (index : Nat) (entry : BodyEntry) : Ledger :=
  { ledger with queued := Function.update ledger.queued index (ledger.queued index ++ [entry]) }

theorem Ledger.push_self (ledger : Ledger) (index : Nat) (entry : BodyEntry) :
    (ledger.push index entry).queued index = ledger.queued index ++ [entry] :=
  Function.update_self _ _ _

theorem Ledger.push_of_ne (ledger : Ledger) {index other : Nat} (entry : BodyEntry) (hne : other ≠ index) :
    (ledger.push index entry).queued other = ledger.queued other :=
  Function.update_of_ne hne _ _

/-- The first queued body entry of a request was read by its handler. -/
def Ledger.pop (ledger : Ledger) (index : Nat) (entry : BodyEntry) (tail : List BodyEntry) : Ledger where
  hasBody := Function.update ledger.hasBody index (!entry.isEnd)
  queued := Function.update ledger.queued index tail
  passed := Function.update ledger.passed index (ledger.passed index ++ entry.buffer)

@[simp]
theorem Ledger.pop_self (ledger : Ledger) (index : Nat) (entry : BodyEntry) (tail : List BodyEntry) :
    (ledger.pop index entry tail).hasBody index = !entry.isEnd ∧
      (ledger.pop index entry tail).queued index = tail ∧
      (ledger.pop index entry tail).passed index = ledger.passed index ++ entry.buffer :=
  ⟨Function.update_self _ _ _, Function.update_self _ _ _, Function.update_self _ _ _⟩

theorem Ledger.pop_of_ne (ledger : Ledger) {index other : Nat} (entry : BodyEntry) (tail : List BodyEntry)
    (hne : other ≠ index) :
    (ledger.pop index entry tail).hasBody other = ledger.hasBody other ∧
      (ledger.pop index entry tail).queued other = ledger.queued other ∧
      (ledger.pop index entry tail).passed other = ledger.passed other :=
  ⟨Function.update_of_ne hne _ _, Function.update_of_ne hne _ _, Function.update_of_ne hne _ _⟩

/-- Reading the first entry of a queued part leaves a queued part. -/
theorem QueuedEnd.pop {ended : Prop} {entry : BodyEntry} {tail : List BodyEntry}
    (hend : QueuedEnd true ended (entry :: tail)) : QueuedEnd (!entry.isEnd) ended tail := by
  obtain ⟨hended, init, last, hentries, hlast, hinit⟩ | ⟨hended, hentries⟩ := hend
  · cases init with
    | nil =>
      obtain ⟨rfl, rfl⟩ := List.cons.inj hentries
      rw [hlast]
      exact ⟨hended, rfl⟩
    | cons first init =>
      obtain ⟨rfl, rfl⟩ := List.cons.inj hentries
      rw [hinit entry (by simp)]
      exact .inl ⟨hended, init, last, rfl, hlast, fun other hother => hinit other (by simp [hother])⟩
  · rw [hentries entry (by simp)]
    exact .inr ⟨hended, fun other hother => hentries other (by simp [hother])⟩

/-- How the callbacks still to come relate to what is left to parse. The begin of
    the next request may have been lost, and a parser in an error state is stuck. -/
def Upcoming (state : Http11ServerConnectionState) (errno : HttpErrno)
    (unread ahead : List ParserEvent) : Prop :=
  unread <+: ahead ∨
    ((state = .Started ∨ state = .ReceiveRequestMessageComplete) ∧
      ∀ event ∈ unread.head?, event ≠ .messageBegin) ∨
    (errno ≠ .HPE_OK ∧ state ≠ .ReceiveRequestMessageComplete)

namespace Http11ServerConnection

/-- The rest of a buffer is kept only when a complete message is before it. -/
def NextBufferValid (self : Http11ServerConnection) : Prop :=
  self.nextRequestBuffer = [] ∨
    (0 < bufferSize self.nextRequestBuffer ∧ self.receive.state = .ReceiveRequestMessageComplete)

/-- No body buffer is left between two rounds of the receive loop. -/
def BuffersPassed (self : Http11ServerConnection) : Prop :=
  self.receive.receiveLoopData.bodyBuffers = [] ∧ self.receive.receiveLoopData.bodyBufferEnqueueIndex = 0

/-- A request is enqueued in the round in which its headers completed. -/
def EnqueuedInTime (self : Http11ServerConnection) : Prop :=
  self.receive.state.headersCompleted → self.receive.receiveLoopData.requestEnqueued = true

/-- What holds where the receive loop stands. -/
def ReceivePointValid (self : Http11ServerConnection) (current : Nat) (queued : List BodyEntry) : Prop :=
  match self.receivePoint with
  | .loop => self.NextBufferValid ∧ self.BuffersPassed ∧ self.EnqueuedInTime
  | .reading | .received _ => self.nextRequestBuffer = [] ∧ self.BuffersPassed ∧ self.EnqueuedInTime ∧
      self.receive.state ≠ .ReceiveRequestMessageComplete
  | .enqueueBody => self.NextBufferValid ∧ self.receive.state.headersCompleted ∧
      self.receive.receiveLoopData.bodyBufferEnqueueIndex ≤ self.receive.receiveLoopData.bodyBuffers.length ∧
      (self.receive.receiveLoopData.requestEnqueued = false →
        queued.length = self.receive.receiveLoopData.bodyBufferEnqueueIndex)
  | .pushingBody entry => self.NextBufferValid ∧ self.receive.state.headersCompleted ∧
      self.receive.receiveLoopData.bodyBufferEnqueueIndex ≤ self.receive.receiveLoopData.bodyBuffers.length ∧
      (self.receive.receiveLoopData.requestEnqueued = false →
        queued.length + 1 = self.receive.receiveLoopData.bodyBufferEnqueueIndex) ∧
      entry.id = UInt32.ofNat current ∧
      (entry.isEnd = true ↔ self.unpushed = [entry.buffer] ∧
        self.receive.state = .ReceiveRequestMessageComplete)
  | .enqueueRequest _ => self.NextBufferValid ∧ self.BuffersPassed
  | .pushingRequest _ => self.NextBufferValid ∧ self.BuffersPassed ∧ self.receive.state.headersCompleted ∧
      self.receive.receiveLoopData.requestEnqueued = true
  | .idle | .failed | .done => False

theorem ReceivePointValid.of_queued {self : Http11ServerConnection} {current : Nat}
    {queued queued' : List BodyEntry} (hvalid : self.ReceivePointValid current queued)
    (hqueued : self.receive.receiveLoopData.requestEnqueued = false → queued' = queued) :
    self.ReceivePointValid current queued' := by
  unfold ReceivePointValid at hvalid ⊢
  cases hpoint : self.receivePoint with
  | enqueueBody =>
    simp only [hpoint] at hvalid ⊢
    exact ⟨hvalid.1, hvalid.2.1, hvalid.2.2.1, fun hnot => hqueued hnot ▸ hvalid.2.2.2 hnot⟩
  | pushingBody entry =>
    simp only [hpoint] at hvalid ⊢
    exact ⟨hvalid.1, hvalid.2.1, hvalid.2.2.1, fun hnot => hqueued hnot ▸ hvalid.2.2.2.1 hnot,
      hvalid.2.2.2.2⟩
  | _ => simpa only [hpoint] using hvalid

/-- The entry of a request in the request queue. -/
def RequestEntryValid (requests : List WireRequest) (ledger : Ledger) (index : Nat) (entry : RequestEntry) :
    Prop :=
  ∃ wire, requests[index]? = some wire ∧
    entry = { request := wire.request, id := UInt32.ofNat index, hasBody := ledger.hasBody index }

/-- What one call of the first handler may have been given: its request, and
    a part of its body, the whole body once a read reported the end. -/
def CallValid (requests : List WireRequest) (index : Nat) (call : HandlerCall) : Prop :=
  ∃ wire, requests[index]? = some wire ∧ call.request = wire.request ∧
    call.chunks.flatten <+: wire.body ∧ (call.ended = true → call.chunks.flatten = wire.body)

/-- The receive loop of a connection that is not shut down works on request
    number `current`, of whose body it handed over `handed`. -/
structure Receiving (requests : List WireRequest) (connection : Http11ServerConnection) (current : Nat)
    (handed : SharedString) (queued : List BodyEntry) : Prop where
  requestId : connection.receive.receiveLoopData.requestId = UInt32.ofNat current
  ahead : ∃ events, Ahead requests current handed connection.parsedSide events ∧
    Upcoming connection.receive.state connection.parserErrno (callbacks connection.unread) events
  bytes : ∀ token ∈ connection.unread, ∀ method http_major http_minor,
    token.event = .headersComplete method http_major http_minor → 0 < token.bytes
  point : connection.ReceivePointValid current queued
  fresh : connection.receive.state.headersCompleted = false → queued = []

/-- Both queues hold what was received and not handled yet. -/
structure Queued (requests : List WireRequest) (connection : Http11ServerConnection) (current : Nat)
    (ledger : Ledger) : Prop where
  requestQueue_open : connection.requestQueue.aborted = false
  requestBodyQueue_open : connection.requestBodyQueue.aborted = false
  enqueued : connection.calls.length + connection.requestQueue.items.length = connection.enqueuedCount current
  requestEntries : ∀ index entry, connection.requestQueue.items[index]? = some entry →
    RequestEntryValid requests ledger (connection.calls.length + index) entry
  pushingRequest : ∀ entry, connection.receivePoint = .pushingRequest entry →
    RequestEntryValid requests ledger current entry
  hasBody_current : connection.receive.receiveLoopData.requestEnqueued = false →
    ledger.hasBody current = match connection.receivePoint with
      | .enqueueRequest hasBody => hasBody || connection.receive.state != .ReceiveRequestMessageComplete
      | _ => true
  bodyEntries : connection.requestBodyQueue.items = lanes ledger.queued (current + 1)
  ids : ∀ index, ∀ entry ∈ ledger.queued index, entry.id = UInt32.ofNat index
  ends : ∀ index ≤ current,
    QueuedEnd (ledger.hasBody index) (index < current ∨ connection.bodyQueued) (ledger.queued index)
  received : ∀ index < current, ∃ wire, requests[index]? = some wire ∧
    ledger.passed index ++ bodyData (ledger.queued index) = wire.body
  later : ∀ index > current, ledger.queued index = [] ∧ ledger.hasBody index = true

/-- The calls of the first handler made so far, the last of which may go on. -/
structure Replying (connection : Http11ServerConnection) (ledger : Ledger) : Prop where
  handled : ∀ index < connection.calls.length, ledger.hasBody index = true →
    (connection.processing ∨ connection.replyPoint = .failed) ∧ index + 1 = connection.calls.length
  unhandled : ∀ index ≥ connection.calls.length, ledger.passed index = []
  lastCall : connection.processing → ∃ calls call, connection.calls = calls ++ [call] ∧
    ledger.passed calls.length = call.chunks.flatten ∧
    connection.reply.replyLoopData.requestId = UInt32.ofNat calls.length ∧
    connection.reply.replyLoopData.requestBodyConsumed = !ledger.hasBody calls.length

/-- What holds while a connection is not shut down. -/
structure Alive (requests : List WireRequest) (connection : Http11ServerConnection) (current : Nat)
    (ledger : Ledger) : Prop where
  receiving : Receiving requests connection current
    (ledger.passed current ++ bodyData (ledger.queued current)) (ledger.queued current)
  queued : Queued requests connection current ledger
  replying : Replying connection ledger

/-- What holds of the calls of the first handler even after a shutdown. -/
structure Settled (requests : List WireRequest) (connection : Http11ServerConnection) : Prop where
  calls : ∀ index call, connection.calls[index]? = some call → CallValid requests index call
  consumed : connection.processing → connection.reply.replyLoopData.requestBodyConsumed = true →
    ∃ calls call wire, connection.calls = calls ++ [call] ∧ requests[calls.length]? = some wire ∧
      call.chunks.flatten = wire.body
  flushing : connection.replyPoint = .flushing → connection.reply.replyLoopData.keepConnection = true →
    connection.reply.replyLoopData.requestBodyConsumed = true
  reading : connection.replyPoint = .readingBody → connection.reply.replyLoopData.requestBodyConsumed = false
  idMismatch : connection.idMismatch = false

/-- Both queues fail every operation. -/
def Aborted (self : Http11ServerConnection) : Prop :=
  self.requestQueue.aborted = true ∧ self.requestBodyQueue.aborted = true

/-- The invariant of a started connection. -/
def Invariant (requests : List WireRequest) (self : Http11ServerConnection) : Prop :=
  Settled requests self ∧ (self.Aborted ∨ ∃ current ledger, Alive requests self current ledger)

variable {requests : List WireRequest} {self : Http11ServerConnection} {current : Nat} {ledger : Ledger}

theorem shutdown_frame (self : Http11ServerConnection) : self.shutdown.calls = self.calls ∧
    self.shutdown.reply = self.reply ∧ self.shutdown.replyPoint = self.replyPoint ∧
      self.shutdown.idMismatch = self.idMismatch := by
  unfold shutdown
  split <;> exact ⟨rfl, rfl, rfl, rfl⟩

/-- Shutdown of a connection that is not closing aborts both queues. -/
theorem shutdown_aborted (hstate : self.receive.state ≠ .Closing) : self.shutdown.Aborted := by
  simp [shutdown, hstate, Aborted, BoundedQueue.abort]

theorem Aborted.shutdown (haborted : self.Aborted) : self.shutdown.Aborted := by
  unfold Http11ServerConnection.shutdown
  split
  · exact haborted
  · exact ⟨rfl, rfl⟩

theorem Alive.state_ne (halive : Alive requests self current ledger) : self.receive.state ≠ .Closing := by
  obtain ⟨events, hahead, -⟩ := halive.receiving.ahead
  exact hahead.state_ne.2.1

theorem refuse_aborted (errorResponse : SharedString) (hstate : self.receive.state ≠ .Closing) :
    (self.refuse errorResponse).Aborted := by
  simp [refuse, shutdown, hstate, Aborted, BoundedQueue.abort]

end Http11ServerConnection

end cpv
