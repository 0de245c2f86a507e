import Cpv.Connection.Invariant

namespace cpv.Http11ServerConnection

variable {requests : List WireRequest} {self : Http11ServerConnection} {current : Nat} {ledger : Ledger}

theorem parsedSide_eq (hunpushed : self.unpushed = self.receive.receiveLoopData.bodyBuffers) :
    self.parsedSide = self.receive := by
  rw [parsedSide, hunpushed]

theorem RequestEntryValid.withoutBody {entry : RequestEntry} {index other : Nat}
    (hentry : RequestEntryValid requests ledger other entry) (hne : other ≠ index) :
    RequestEntryValid requests (ledger.withoutBody index) other entry := by
  obtain ⟨wire, hwire, rfl⟩ := hentry
  exact ⟨wire, hwire, by rw [ledger.withoutBody_of_ne hne]⟩

theorem Replying.withoutBody {index : Nat} (hreplying : Replying self ledger)
    (hindex : self.calls.length ≤ index) : Replying self (ledger.withoutBody index) where
  handled := by
    intro other hlt hbody
    rw [ledger.withoutBody_of_ne (by omega)] at hbody
    exact hreplying.handled other hlt hbody
  unhandled := hreplying.unhandled
  lastCall := by
    intro hprocessing
    obtain ⟨calls, call, hcalls, hpassed, hid, hconsumed⟩ := hreplying.lastCall hprocessing
    have hlt : calls.length < self.calls.length := by simp [hcalls]
    refine ⟨calls, call, hcalls, hpassed, hid, ?_⟩
    rw [ledger.withoutBody_of_ne (by omega)]
    exact hconsumed

/-- What is known of a scanned buffer that the receive loop accepts. -/
structure Scanned (requests : List WireRequest) (connection : Http11ServerConnection) (current : Nat)
    (ledger : Ledger) (side : ReceiveSide) (errno : HttpErrno) (rest : List ParserToken) : Prop where
  alive : Alive requests connection current ledger
  requestId : side.receiveLoopData.requestId = connection.receive.receiveLoopData.requestId
  index : side.receiveLoopData.bodyBufferEnqueueIndex = 0
  headers : connection.receive.state.headersCompleted → side.state.headersCompleted
  tail : TailPresent side
  ahead : ∃ events, Ahead requests current (ledger.passed current ++ bodyData (ledger.queued current)) side events ∧
    Upcoming side.state errno (callbacks (rest ++ connection.socketIn.flatten)) events
  bytes : ∀ token ∈ rest ++ connection.socketIn.flatten, ∀ method http_major http_minor,
    token.event = .headersComplete method http_major http_minor → 0 < token.bytes
  rest : rest = [] ∨ (0 < bufferSize rest ∧ side.state = .ReceiveRequestMessageComplete)
  enqueuedCount : connection.enqueuedCount current = if side.receiveLoopData.requestEnqueued then current + 1 else current
  incomplete : connection.receive.state ≠ .ReceiveRequestMessageComplete
  hasBody : ledger.hasBody current = true
  queued : side.receiveLoopData.requestEnqueued = false → ledger.queued current = []

/-- A connection behind a scanned buffer. -/
abbrev afterScan (self : Http11ServerConnection) (side : ReceiveSide) (errno : HttpErrno) (rest : List ParserToken)
    (receivePoint : ReceivePoint) : Http11ServerConnection :=
  { self with receive := side, parserErrno := errno, nextRequestBuffer := rest, receivePoint }

namespace Scanned

variable {side : ReceiveSide} {errno : HttpErrno} {rest : List ParserToken}

/-- A request that is complete without any body buffer is enqueued as one without a body. -/
theorem complete (hscanned : Scanned requests self current ledger side errno rest)
    (hbuffers : side.receiveLoopData.bodyBuffers = []) (hcomplete : side.state = .ReceiveRequestMessageComplete) :
    Alive requests (self.afterScan side errno rest (.enqueueRequest false)) current (ledger.withoutBody current) := by
  obtain ⟨hreceiving, hqueued, hreplying⟩ := hscanned.alive
  obtain ⟨events, hahead, hupcoming⟩ := hscanned.ahead
  have hnot : side.receiveLoopData.requestEnqueued = false := by
    cases hcase : side.receiveLoopData.requestEnqueued with
    | false => rfl
    | true => exact absurd hbuffers (hscanned.tail hcomplete hcase)
  have htotal : self.calls.length + self.requestQueue.items.length = current := by
    rw [hqueued.enqueued, hscanned.enqueuedCount, hnot]
    rfl
  have hreplying : Replying self (ledger.withoutBody current) := hreplying.withoutBody (by omega)
  refine ⟨⟨hscanned.requestId.trans hreceiving.requestId, ⟨events, ?_, hupcoming⟩,
    hscanned.bytes, ⟨hscanned.rest, hbuffers, hscanned.index⟩, ?_⟩, ?_, { hreplying with }⟩
  · rw [parsedSide_eq (by simp [unpushed, hbuffers])]
    exact hahead
  · exact fun _ => hscanned.queued hnot
  · refine { hqueued with
      enqueued := ?_, requestEntries := ?_, pushingRequest := ?_, hasBody_current := ?_, ends := ?_
      later := ?_ }
    · exact hqueued.enqueued.trans hscanned.enqueuedCount
    · intro index entry hentry
      have hlt : index < self.requestQueue.items.length := (List.getElem?_eq_some_iff.mp hentry).1
      exact (hqueued.requestEntries index entry hentry).withoutBody (by omega)
    · simp
    · simp [Ledger.withoutBody, hcomplete]
    · intro index hle
      by_cases hcurrent : index = current
      · subst hcurrent
        have hended : (self.afterScan side errno rest (.enqueueRequest false)).bodyQueued :=
          ⟨hcomplete, by simp [unpushed, hbuffers]⟩
        simpa [Ledger.withoutBody, QueuedEnd, hscanned.queued hnot] using hended
      · have hlt : index < current := by omega
        rw [ledger.withoutBody_of_ne hcurrent]
        exact (hqueued.ends index hle).of_iff (by simp [hlt])
    · intro index hgt
      rw [ledger.withoutBody_of_ne (by omega)]
      exact hqueued.later index hgt

/-- Without any body buffer a request that is not complete still has its body to come. -/
theorem withoutBuffers (hscanned : Scanned requests self current ledger side errno rest)
    (hbuffers : side.receiveLoopData.bodyBuffers = []) (hcomplete : side.state ≠ .ReceiveRequestMessageComplete) :
    Alive requests (self.afterScan side errno rest (.enqueueRequest false)) current ledger := by
  obtain ⟨hreceiving, hqueued, hreplying⟩ := hscanned.alive
  obtain ⟨events, hahead, hupcoming⟩ := hscanned.ahead
  refine ⟨⟨hscanned.requestId.trans hreceiving.requestId, ⟨events, ?_, hupcoming⟩,
    hscanned.bytes, ⟨hscanned.rest, hbuffers, hscanned.index⟩, ?_⟩, { hqueued with
      enqueued := ?_, pushingRequest := ?_, hasBody_current := ?_, ends := ?_ }, { hreplying with }⟩
  · rw [parsedSide_eq (by simp [unpushed, hbuffers])]
    exact hahead
  · intro hfresh
    apply hreceiving.fresh
    cases hcompleted : self.receive.state.headersCompleted with
    | false => rfl
    | true => rw [hscanned.headers hcompleted] at hfresh; cases hfresh
  · exact hqueued.enqueued.trans hscanned.enqueuedCount
  · simp
  · simp [hscanned.hasBody, hcomplete]
  · intro index hle
    refine (hqueued.ends index hle).of_iff (or_congr Iff.rfl ⟨fun h => absurd h.1 hscanned.incomplete, ?_⟩)
    exact fun h => absurd h.1 hcomplete

/-- Body buffers are enqueued before the request is. -/
theorem withBuffers (hscanned : Scanned requests self current ledger side errno rest)
    (hbuffers : side.receiveLoopData.bodyBuffers ≠ []) :
    Alive requests (self.afterScan side errno rest .enqueueBody) current ledger := by
  obtain ⟨hreceiving, hqueued, hreplying⟩ := hscanned.alive
  obtain ⟨events, hahead, hupcoming⟩ := hscanned.ahead
  have hbody := hahead.headersCompleted_of_body hbuffers
  have hcompleted : side.state.headersCompleted := by obtain h | h := hbody <;> rw [h] <;> rfl
  refine ⟨⟨hscanned.requestId.trans hreceiving.requestId, ⟨events, ?_, hupcoming⟩, hscanned.bytes,
    ⟨hscanned.rest, hcompleted, ?_, ?_⟩, ?_⟩, { hqueued with
      enqueued := ?_, pushingRequest := ?_, hasBody_current := ?_, ends := ?_ }, { hreplying with }⟩
  · rw [parsedSide_eq (by simp [unpushed, hscanned.index])]
    exact hahead
  · simp [hscanned.index]
  · intro hnot
    simp [hscanned.queued hnot, hscanned.index]
  · simp [hcompleted]
  · exact hqueued.enqueued.trans hscanned.enqueuedCount
  · simp
  · simp [hscanned.hasBody]
  · intro index hle
    refine (hqueued.ends index hle).of_iff (or_congr Iff.rfl ⟨fun h => absurd h.1 hscanned.incomplete, ?_⟩)
    rintro ⟨-, h⟩
    simp [unpushed, hscanned.index, hbuffers] at h

end Scanned

/-- What the receive loop does with a scanned buffer it accepts. -/
theorem Alive.scanned {side : ReceiveSide} {errno : HttpErrno} {rest buffer : List ParserToken}
    (halive : Alive requests self current ledger) (hpoint : self.receivePoint = .received buffer)
    (hframe : side.receiveLoopData.requestId = self.receive.receiveLoopData.requestId ∧
      side.receiveLoopData.bodyBufferEnqueueIndex = self.receive.receiveLoopData.bodyBufferEnqueueIndex ∧
      side.receiveLoopData.requestEnqueued = self.receive.receiveLoopData.requestEnqueued ∧
      (self.receive.state.headersCompleted → side.state.headersCompleted) ∧ TailPresent side)
    (hahead : ∃ events, Ahead requests current
        (ledger.passed current ++ bodyData (ledger.queued current)) side events ∧
      Upcoming side.state errno (callbacks (rest ++ self.socketIn.flatten)) events)
    (hbytes : ∀ token ∈ rest ++ self.socketIn.flatten, ∀ method http_major http_minor,
      token.event = .headersComplete method http_major http_minor → 0 < token.bytes)
    (hrest : rest = [] ∨ (0 < bufferSize rest ∧ side.state = .ReceiveRequestMessageComplete)) :
    ∃ ledger', Alive requests { self with
      receive := side
      parserErrno := errno
      nextRequestBuffer := rest
      receivePoint := if side.receiveLoopData.bodyBuffers = [] then .enqueueRequest false
        else .enqueueBody } current ledger' := by
  obtain ⟨hid, hindex, henqueued, hheaders, htail⟩ := hframe
  have hvalid := halive.receiving.point
  simp only [ReceivePointValid, hpoint, BuffersPassed, EnqueuedInTime] at hvalid
  obtain ⟨-, ⟨-, hindex0⟩, hintime, hstate⟩ := hvalid
  have hnotQueued : ¬(current < current ∨ self.bodyQueued) := by
    rintro (h | h)
    · omega
    · exact hstate h.1
  have hqueuedNil : side.receiveLoopData.requestEnqueued = false → ledger.queued current = [] := by
    intro hnot
    apply halive.receiving.fresh
    cases hcompleted : self.receive.state.headersCompleted with
    | false => rfl
    | true => rw [← henqueued, hnot] at hintime; exact absurd (hintime hcompleted) (by simp)
  have hscanned : Scanned requests self current ledger side errno rest := {
    alive := halive, requestId := hid, index := hindex.trans hindex0, headers := hheaders, tail := htail
    ahead := hahead, bytes := hbytes, rest := hrest
    enqueuedCount := by simp [enqueuedCount, hpoint, henqueued]
    incomplete := hstate
    hasBody := ((halive.queued.ends current le_rfl).of_not_ended hnotQueued).1
    queued := hqueuedNil }
  split
  · rename_i hbuffers
    by_cases hcomplete : side.state = .ReceiveRequestMessageComplete
    · exact ⟨_, hscanned.complete hbuffers hcomplete⟩
    · exact ⟨_, hscanned.withoutBuffers hbuffers hcomplete⟩
  · rename_i hbuffers
    exact ⟨_, hscanned.withBuffers hbuffers⟩

private theorem bytes_eq_zero_of_bufferSize {tokens : List ParserToken} (hsize : bufferSize tokens = 0) :
    ∀ token ∈ tokens, token.bytes = 0 := by
  intro token htoken
  rw [bufferSize, List.sum_eq_zero_iff_forall_eq_nat] at hsize
  exact hsize token.bytes (List.mem_map_of_mem htoken)

/-- A scan of one buffer keeps the callbacks still to come in step with what is
    left to parse, whether the buffer was used up or the next request begins in it. -/
theorem httpParserScan_upcoming {side : ReceiveSide} {handed : SharedString}
    {buffer later : List ParserToken} {events : List ParserEvent}
    (hahead : Ahead requests current handed side events)
    (hupcoming : Upcoming side.state .HPE_OK (callbacks (buffer ++ later)) events)
    (hstate : side.state ≠ .ReceiveRequestMessageComplete)
    (hbytes : ∀ token ∈ buffer, ∀ method http_major http_minor,
      token.event = .headersComplete method http_major http_minor → 0 < token.bytes) :
    let result := httpParserScan side 0 buffer
    ∃ ahead, Ahead requests current handed result.side ahead ∧
      (result.parsedSize = bufferSize buffer → Upcoming result.side.state result.errno (callbacks later) ahead) ∧
      (result.errno = .HPE_CB_message_begin →
        Upcoming result.side.state result.errno (callbacks (result.rest ++ later)) ahead ∧
        0 < bufferSize result.rest ∧ ∀ token ∈ result.rest, ∀ method http_major http_minor,
          token.event = .headersComplete method http_major http_minor → 0 < token.bytes) := by
  rw [callbacks_append] at hupcoming
  obtain hpre | ⟨hwaiting, hlost⟩ | ⟨herrno, -⟩ := hupcoming
  · obtain ⟨ahead, hahead, ⟨herrno, hlater⟩ |
      ⟨herrno, hcomplete, token, rest, hbegin, hone, hrest, hsuffix, hsize, hlater⟩ |
      ⟨herrno, hstuck⟩⟩ := httpParserScan_ahead 0 hahead hpre
    · exact ⟨ahead, hahead, fun _ => .inl hlater, fun h => by rw [herrno] at h; cases h⟩
    · refine ⟨ahead, hahead, fun hall => .inr (.inl ⟨.inr hcomplete, ?_⟩), fun _ => ⟨.inl ?_, ?_, ?_⟩⟩
      · have hzero : bufferSize rest = 0 := by omega
        have hzero := bytes_eq_zero_of_bufferSize hzero
        refine StreamEvents.head_ne_messageBegin (hahead.stream_of_complete hcomplete) hlater ?_
        intro event hevent method http_major http_minor hheaders
        obtain ⟨lost, hmem, rfl⟩ := List.mem_map.mp (List.mem_filter.mp hevent).1
        have := hbytes lost (hsuffix.subset hmem) method http_major http_minor hheaders
        rw [hzero lost hmem] at this
        omega
      · rw [hrest, callbacks_append, callbacks_cons (by rw [hbegin]; simp), hbegin]
        exact hlater
      · rw [hrest, bufferSize, List.map_cons, List.sum_cons, hone]
        omega
      · rw [hrest]
        intro other hmem method http_major http_minor hheaders
        obtain rfl | hmem := List.mem_cons.mp hmem
        · rw [hbegin] at hheaders
          cases hheaders
        · exact hbytes other (hsuffix.subset hmem) method http_major http_minor hheaders
    · exact ⟨ahead, hahead, fun _ => .inr (.inr ⟨by simp [herrno], hstuck⟩),
        fun h => by rw [herrno] at h; cases h⟩
  · have hstarted := hwaiting.resolve_right hstate
    have hbegin : ∀ event ∈ (callbacks buffer).head?, event ≠ .messageBegin := by
      intro event hevent
      apply hlost
      cases hcase : callbacks buffer with
      | nil => simp [hcase] at hevent
      | cons => simpa [hcase] using hevent
    obtain ⟨hside, ⟨herrno, hnil⟩ | herrno⟩ := httpParserScan_lost 0 hstarted hbegin
    · rw [hnil, List.nil_append] at hlost
      refine ⟨events, by rwa [hside], fun _ => ?_, fun h => by rw [herrno] at h; cases h⟩
      rw [hside]
      exact .inr (.inl ⟨.inl hstarted, hlost⟩)
    · refine ⟨events, by rwa [hside], fun _ => ?_, fun h => by rw [herrno] at h; cases h⟩
      rw [hside]
      exact .inr (.inr ⟨by simp [herrno], hstate⟩)
  · exact absurd rfl herrno

/-- Executing the parser on a buffer keeps the invariant, or refuses the buffer. -/
theorem Alive.executeParser {buffer : List ParserToken} (halive : Alive requests self current ledger)
    (hpoint : self.receivePoint = .received buffer) (hsize : bufferSize buffer ≠ 0) :
    (self.executeParser buffer).Aborted ∨ ∃ ledger', Alive requests (self.executeParser buffer) current ledger' := by
  have hvalid := halive.receiving.point
  simp only [ReceivePointValid, hpoint, BuffersPassed] at hvalid
  obtain ⟨hnext, ⟨hbuffers, hindex⟩, -, hstate⟩ := hvalid
  have hparsed : self.parsedSide = self.receive := parsedSide_eq (by simp [unpushed, hpoint, hbuffers])
  by_cases herrno : self.parserErrno = .HPE_OK
  · obtain ⟨events, hahead, hupcoming⟩ := halive.receiving.ahead
    have hbytes := halive.receiving.bytes
    simp only [unread, hpoint, hnext, List.nil_append] at hupcoming hbytes
    rw [hparsed] at hahead
    rw [herrno] at hupcoming
    obtain ⟨ahead, hahead, hall, hpipeline⟩ := httpParserScan_upcoming hahead hupcoming hstate
      fun token htoken => hbytes token (List.mem_append_left _ htoken)
    have htail : TailPresent self.receive := fun h => absurd h hstate
    have hframe := @httpParserScan_frame _ buffer 0 htail
    have hnotClosing := hahead.state_ne.2.1
    simp only [Http11ServerConnection.executeParser, http_parser_execute, herrno, if_true]
    generalize httpParserScan self.receive 0 buffer = result at hahead hall hpipeline hframe hnotClosing
    split
    · rename_i hparsedSize
      right
      rw [← List.nil_append self.socketIn.flatten] at hall
      obtain ⟨ledger', halive'⟩ := halive.scanned hpoint hframe ⟨ahead, hahead, hall hparsedSize⟩
        (fun token htoken => hbytes token (List.mem_append_right _ htoken)) (.inl rfl)
      exact ⟨ledger', by rwa [← hnext] at halive'⟩
    · split
      · rename_i hbegin
        obtain ⟨hupcoming, hpositive, hrest⟩ := hpipeline hbegin.1
        right
        refine halive.scanned hpoint hframe ⟨ahead, hahead, hupcoming⟩ ?_ (.inr ⟨hpositive, hbegin.2.2⟩)
        intro token htoken
        obtain htoken | htoken := List.mem_append.mp htoken
        · exact hrest token htoken
        · exact hbytes token (List.mem_append_right _ htoken)
      · exact .inl (refuse_aborted _ hnotClosing)
  · simp only [Http11ServerConnection.executeParser, http_parser_execute, herrno, if_false]
    rw [if_neg (Ne.symm hsize), if_neg (by omega)]
    exact .inl (refuse_aborted _ halive.state_ne)

theorem Alive.touch (halive : Alive requests self current ledger) (detectTimeoutFlag : Bool) :
    Alive requests { self with detectTimeoutFlag } current ledger where
  receiving := { halive.receiving with }
  queued := { halive.queued with }
  replying := { halive.replying with }

theorem Alive.countInitialRequest (halive : Alive requests self current ledger) (buffer : List ParserToken) :
    Alive requests (self.countInitialRequest buffer) current ledger where
  receiving := { halive.receiving with
    ahead := by
      obtain ⟨events, hahead, hupcoming⟩ := halive.receiving.ahead
      exact ⟨events, hahead.count _ _ _ _, hupcoming⟩ }
  queued := { halive.queued with }
  replying := { halive.replying with }

/-- A buffer that was read keeps the invariant, or shuts the connection down. -/
theorem Alive.receiveBuffer {buffer : List ParserToken} (halive : Alive requests self current ledger)
    (hpoint : self.receivePoint = .received buffer) :
    (self.receiveBuffer buffer).Aborted ∨ ∃ ledger', Alive requests (self.receiveBuffer buffer) current ledger' := by
  have hstate := halive.state_ne
  simp only [Http11ServerConnection.receiveBuffer]
  split
  · left
    simp [shutdown, hstate, Aborted, BoundedQueue.abort]
  · rename_i hsize
    split
    · exact (halive.touch false).executeParser hpoint hsize
    · split
      · exact .inl (refuse_aborted _ hstate)
      · split
        · exact .inl (refuse_aborted _ hstate)
        · exact ((halive.touch false).countInitialRequest buffer).executeParser hpoint hsize

/-- After a complete message the receive loop goes on with the next request. -/
theorem Alive.nextRequest {point : ReceivePoint} (halive : Alive requests self current ledger)
    (hpoint : self.receivePoint = .loop) (hcomplete : self.receive.state = .ReceiveRequestMessageComplete)
    (hnext : (point = .reading ∧ self.nextRequestBuffer = []) ∨ point = .received self.nextRequestBuffer) :
    Alive requests { self with
      receive := {
        state := .Started
        newRequest := {}
        receiveLoopData := { requestId := self.receive.receiveLoopData.requestId + 1 } }
      parserErrno := .HPE_OK
      nextRequestBuffer := []
      receivePoint := point } (current + 1) ledger := by
  obtain ⟨hreceiving, hqueued, hreplying⟩ := halive
  have hvalid := hreceiving.point
  simp only [ReceivePointValid, hpoint] at hvalid
  obtain ⟨-, ⟨hbuffers, hindex⟩, hintime⟩ := hvalid
  have hparsed : self.parsedSide = self.receive := parsedSide_eq (by simp [unpushed, hpoint, hbuffers])
  have hbodyQueued : self.bodyQueued := ⟨hcomplete, by simp [unpushed, hpoint, hbuffers]⟩
  have henqueued := hintime (by rw [hcomplete]; rfl)
  obtain ⟨events, hahead, hupcoming⟩ := hreceiving.ahead
  rw [hparsed] at hahead
  have hcount := hqueued.enqueued
  simp only [enqueuedCount, hpoint, henqueued, if_true] at hcount
  obtain ⟨hlaterQueued, hlaterBody⟩ := hqueued.later (current + 1) (by omega)
  have hlaterPassed := hreplying.unhandled (current + 1) (by omega)
  have hunread : unread { self with
      receive := {
        state := .Started
        newRequest := {}
        receiveLoopData := { requestId := self.receive.receiveLoopData.requestId + 1 } }
      parserErrno := .HPE_OK
      nextRequestBuffer := []
      receivePoint := point } = self.unread := by
    obtain ⟨rfl, hnil⟩ | rfl := hnext
    · simp [unread, hpoint, hnil]
    · simp [unread, hpoint]
  refine ⟨⟨?_, ⟨events, ?_, ?_⟩, by rw [hunread]; exact hreceiving.bytes, ?_, fun _ => hlaterQueued⟩,
    { hqueued with
      enqueued := ?_, pushingRequest := ?_, hasBody_current := ?_, bodyEntries := ?_, ends := ?_
      received := ?_, later := ?_ }, { hreplying with }⟩
  · simp [hreceiving.requestId]
  · rw [hlaterPassed, hlaterQueued]
    refine .started rfl rfl ?_ rfl (hahead.stream_of_complete hcomplete)
    obtain ⟨rfl, -⟩ | rfl := hnext <;> simp [parsedSide, unpushed]
  · rw [hunread]
    obtain hpre | ⟨-, hlost⟩ | ⟨-, hstate⟩ := hupcoming
    · exact .inl hpre
    · exact .inr (.inl ⟨.inl rfl, hlost⟩)
    · exact absurd hcomplete hstate
  · obtain ⟨rfl, -⟩ | rfl := hnext <;>
      simp [ReceivePointValid, BuffersPassed, EnqueuedInTime, Http11ServerConnectionState.headersCompleted]
  · obtain ⟨rfl, -⟩ | rfl := hnext <;> simpa [enqueuedCount] using hcount
  · obtain ⟨rfl, -⟩ | rfl := hnext <;> simp
  · obtain ⟨rfl, -⟩ | rfl := hnext <;> simpa using hlaterBody
  · rw [lanes_succ, hlaterQueued, List.append_nil]
    exact hqueued.bodyEntries
  · intro index hle
    by_cases hlast : index = current + 1
    · subst hlast
      simp [hlaterQueued, hlaterBody, QueuedEnd, bodyQueued]
    · have hlt : index < current + 1 := by omega
      exact (hqueued.ends index (by omega)).of_iff (by simp [hlt, hbodyQueued])
  · intro index hlt
    by_cases hlast : index = current
    · subst hlast
      obtain ⟨wire, hwire, -, -, hbody⟩ := hahead.headersCompleted_spec (by rw [hcomplete]; rfl)
      exact ⟨wire, hwire, by simpa [hbuffers] using hbody hcomplete⟩
    · exact hqueued.received index (by omega)
  · exact fun index hgt => hqueued.later index (by omega)

/-- The begin of a round of the receive loop keeps the invariant. -/
theorem Alive.receiveRequestLoop (halive : Alive requests self current ledger)
    (hpoint : self.receivePoint = .loop) :
    ∃ current', Alive requests self.receiveRequestLoop current' ledger := by
  have hvalid := halive.receiving.point
  simp only [ReceivePointValid, hpoint] at hvalid
  obtain ⟨hnext, hpassed, hintime⟩ := hvalid
  simp only [Http11ServerConnection.receiveRequestLoop, halive.state_ne, if_false]
  by_cases hcomplete : self.receive.state = .ReceiveRequestMessageComplete
  · refine ⟨current + 1, ?_⟩
    simp only [hcomplete, if_true]
    by_cases hsize : bufferSize self.nextRequestBuffer = 0
    · have hnil : self.nextRequestBuffer = [] := hnext.resolve_right fun h => by omega
      have halive' := halive.nextRequest hpoint hcomplete (.inl ⟨rfl, hnil⟩)
      rw [if_pos hsize]
      rwa [← hnil] at halive'
    · rw [if_neg hsize]
      exact halive.nextRequest hpoint hcomplete (.inr rfl)
  · refine ⟨current, ?_⟩
    have hnil : self.nextRequestBuffer = [] := hnext.resolve_right fun h => hcomplete h.2
    have hqueued := halive.queued
    simp only [hcomplete, if_false, hnil, bufferSize, List.map_nil, List.sum_nil, if_true]
    obtain ⟨events, hahead, hupcoming⟩ := halive.receiving.ahead
    refine ⟨⟨halive.receiving.requestId, ⟨events, ?_, ?_⟩, ?_, ⟨rfl, hpassed, hintime, hcomplete⟩,
      halive.receiving.fresh⟩, { hqueued with
        enqueued := ?_, pushingRequest := ?_, hasBody_current := ?_, ends := ?_ },
      { halive.replying with }⟩
    · simpa [parsedSide, unpushed, hpoint] using hahead
    · simpa [unread, hpoint, hnil] using hupcoming
    · simpa [unread, hpoint, hnil] using halive.receiving.bytes
    · simpa [enqueuedCount, hpoint] using hqueued.enqueued
    · simp
    · simpa [hpoint] using hqueued.hasBody_current
    · simpa [bodyQueued, unpushed, hpoint] using hqueued.ends

/-- What was read from the socket is what is parsed next. -/
theorem Alive.read {buffer : List ParserToken} {socketIn : List (List ParserToken)}
    (halive : Alive requests self current ledger) (hpoint : self.receivePoint = .reading)
    (hsocket : self.socketIn = buffer :: socketIn) :
    Alive requests { self with socketIn, receivePoint := .received buffer } current ledger := by
  have hvalid := halive.receiving.point
  simp only [ReceivePointValid, hpoint] at hvalid
  have hqueued := halive.queued
  obtain ⟨events, hahead, hupcoming⟩ := halive.receiving.ahead
  have hbytes := halive.receiving.bytes
  simp only [unread, hpoint, hsocket, hvalid.1, List.nil_append, List.flatten_cons] at hupcoming hbytes
  refine ⟨⟨halive.receiving.requestId, ⟨events, ?_, ?_⟩, ?_, hvalid, halive.receiving.fresh⟩, { hqueued with
      enqueued := ?_, pushingRequest := ?_, hasBody_current := ?_, ends := ?_ }, { halive.replying with }⟩
  · simpa [parsedSide, unpushed, hpoint] using hahead
  · simpa [unread, hvalid.1] using hupcoming
  · simpa [unread, hvalid.1] using hbytes
  · simpa [enqueuedCount, hpoint] using hqueued.enqueued
  · simp
  · simpa [hpoint] using hqueued.hasBody_current
  · simpa [bodyQueued, unpushed, hpoint] using hqueued.ends

/-- A body entry that found room joins the queued part of the current body. -/
theorem Alive.pushedBody {entry : BodyEntry} {requestBodyQueue : BoundedQueue BodyEntry}
    (halive : Alive requests self current ledger) (hpoint : self.receivePoint = .pushingBody entry)
    (hpush : self.requestBodyQueue.pushEventually entry = .ready requestBodyQueue) :
    Alive requests { self with requestBodyQueue, receivePoint := .enqueueBody } current
      (ledger.push current entry) := by
  obtain ⟨hreceiving, hqueued, hreplying⟩ := halive
  have hvalid := hreceiving.point
  simp only [ReceivePointValid, hpoint] at hvalid
  obtain ⟨hnext, hcompleted, hindex, hlength, hid, hisEnd⟩ := hvalid
  obtain ⟨hopen, -, rfl⟩ := BoundedQueue.pushEventually_eq_ready.mp hpush
  obtain ⟨events, hahead, hupcoming⟩ := hreceiving.ahead
  have hunpushed : self.unpushed = entry.buffer ::
      self.receive.receiveLoopData.bodyBuffers.drop self.receive.receiveLoopData.bodyBufferEnqueueIndex := by
    simp [unpushed, hpoint]
  have hnotQueued : ¬(current < current ∨ self.bodyQueued) := by
    rintro (h | h)
    · omega
    · simp [bodyQueued, hunpushed] at h
  obtain ⟨hhasBody, hnoEnd⟩ := (hqueued.ends current le_rfl).of_not_ended hnotQueued
  refine ⟨⟨hreceiving.requestId, ⟨events, ?_, ?_⟩, ?_, ?_, ?_⟩, { hqueued with
      enqueued := ?_, pushingRequest := ?_, hasBody_current := ?_, bodyEntries := ?_, ids := ?_
      ends := ?_, received := ?_, later := ?_ }, { hreplying with }⟩
  · have hhanded : ledger.passed current ++ bodyData (ledger.queued current ++ [entry]) =
        ledger.passed current ++ bodyData (ledger.queued current) ++ entry.buffer := by
      simp [bodyData]
    rw [ledger.push_self]
    exact hhanded ▸ hahead.pass hunpushed
  · simpa [unread, hpoint] using hupcoming
  · simpa [unread, hpoint] using hreceiving.bytes
  · refine ⟨hnext, hcompleted, hindex, fun hnot => ?_⟩
    rw [ledger.push_self, List.length_append]
    exact hlength hnot
  · simp [hcompleted]
  · simpa [enqueuedCount, hpoint] using hqueued.enqueued
  · simp
  · exact fun _ => hhasBody
  · rw [hqueued.bodyEntries]
    exact (lanes_push ledger.queued current entry).symm
  · intro index other hother
    by_cases hcurrent : index = current
    · subst hcurrent
      rw [ledger.push_self, List.mem_append, List.mem_singleton] at hother
      obtain hother | rfl := hother
      · exact hqueued.ids index other hother
      · exact hid
    · rw [ledger.push_of_ne entry hcurrent] at hother
      exact hqueued.ids index other hother
  · intro index hle
    by_cases hcurrent : index = current
    · subst hcurrent
      rw [ledger.push_self]
      simp only [Ledger.push, QueuedEnd, hhasBody, if_true]
      by_cases hend : entry.isEnd = true
      · obtain ⟨hrest, hcomplete⟩ := hisEnd.mp hend
        rw [hunpushed, List.cons_eq_cons] at hrest
        exact .inl ⟨.inr ⟨hcomplete, hrest.2⟩, _, entry, rfl, hend, hnoEnd⟩
      · refine .inr ⟨?_, ?_⟩
        · rintro (h | ⟨hcomplete, hrest⟩)
          · omega
          · simp only [unpushed, List.nil_append] at hrest
            exact hend (hisEnd.mpr ⟨by rw [hunpushed, hrest], hcomplete⟩)
        · intro other hother
          obtain hother | hother := List.mem_append.mp hother
          · exact hnoEnd other hother
          · rw [List.mem_singleton.mp hother]
            simpa using hend
    · rw [ledger.push_of_ne entry hcurrent]
      have hlt : index < current := by omega
      exact (hqueued.ends index hle).of_iff (by simp [hlt])
  · intro index hlt
    rw [ledger.push_of_ne entry (by omega)]
    exact hqueued.received index hlt
  · intro index hgt
    rw [ledger.push_of_ne entry (by omega)]
    exact hqueued.later index hgt

/-- The next body buffer of a request is turned into an entry. -/
theorem Alive.pushingBody {buffer : SharedString} (halive : Alive requests self current ledger)
    (hpoint : self.receivePoint = .enqueueBody)
    (hbuffer : self.receive.receiveLoopData.bodyBuffers[self.receive.receiveLoopData.bodyBufferEnqueueIndex]? =
      some buffer) :
    Alive requests { self with
      receive := { self.receive with receiveLoopData := { self.receive.receiveLoopData with
        bodyBufferEnqueueIndex := self.receive.receiveLoopData.bodyBufferEnqueueIndex + 1 } }
      receivePoint := .pushingBody
        (self.bodyEntry self.receive.receiveLoopData.bodyBufferEnqueueIndex buffer) } current ledger := by
  obtain ⟨hreceiving, hqueued, hreplying⟩ := halive
  have hvalid := hreceiving.point
  simp only [ReceivePointValid, hpoint] at hvalid
  obtain ⟨hnext, hcompleted, hindex, hlength⟩ := hvalid
  obtain ⟨events, hahead, hupcoming⟩ := hreceiving.ahead
  obtain ⟨hlt, hget⟩ := List.getElem?_eq_some_iff.mp hbuffer
  have hdrop : self.receive.receiveLoopData.bodyBuffers.drop
      self.receive.receiveLoopData.bodyBufferEnqueueIndex =
        buffer :: self.receive.receiveLoopData.bodyBuffers.drop
          (self.receive.receiveLoopData.bodyBufferEnqueueIndex + 1) := by
    rw [List.drop_eq_getElem_cons hlt, hget]
  refine ⟨⟨hreceiving.requestId, ⟨events, ?_, ?_⟩, ?_, ⟨hnext, hcompleted, hlt, ?_, ?_, ?_⟩, ?_⟩,
    { hqueued with enqueued := ?_, pushingRequest := ?_, hasBody_current := ?_, ends := ?_ },
    { hreplying with }⟩
  · have hside := hahead.count self.receive.receiveLoopData.requestId
      self.receive.receiveLoopData.receivedBytes self.receive.receiveLoopData.receivedPackets
      (self.receive.receiveLoopData.bodyBufferEnqueueIndex + 1)
    simpa [parsedSide, unpushed, hpoint, hdrop, bodyEntry] using hside
  · simpa [unread, hpoint] using hupcoming
  · simpa [unread, hpoint] using hreceiving.bytes
  · exact fun hnot => congrArg (· + 1) (hlength hnot)
  · exact hreceiving.requestId
  · simp only [bodyEntry, unpushed, decide_eq_true_eq, List.singleton_append, List.cons_eq_cons,
      List.drop_eq_nil_iff, true_and]
    refine and_congr ?_ Iff.rfl
    omega
  · simp [hcompleted]
  · simpa [enqueuedCount, hpoint] using hqueued.enqueued
  · simp
  · simpa [hpoint] using hqueued.hasBody_current
  · intro index hle
    refine (hqueued.ends index hle).of_iff ?_
    simp [bodyQueued, unpushed, hpoint, hdrop]

/-- Pushing the body buffers of one parse keeps the invariant. -/
theorem Alive.enqueueBodyBuffers (halive : Alive requests self current ledger)
    (hpoint : self.receivePoint = .enqueueBody) :
    ∃ ledger', Alive requests self.enqueueBodyBuffers current ledger' := by
  simp only [Http11ServerConnection.enqueueBodyBuffers]
  cases hbuffer : self.receive.receiveLoopData.bodyBuffers[self.receive.receiveLoopData.bodyBufferEnqueueIndex]? with
  | none =>
    obtain ⟨hreceiving, hqueued, hreplying⟩ := halive
    have hvalid := hreceiving.point
    simp only [ReceivePointValid, hpoint] at hvalid
    obtain ⟨hnext, hcompleted, -, -⟩ := hvalid
    obtain ⟨events, hahead, hupcoming⟩ := hreceiving.ahead
    have hdrop := List.drop_eq_nil_of_le (List.getElem?_eq_none_iff.mp hbuffer)
    refine ⟨ledger, ⟨hreceiving.requestId, ⟨events, ?_, ?_⟩, ?_, ⟨hnext, rfl, rfl⟩, ?_⟩, { hqueued with
      enqueued := ?_, pushingRequest := ?_, hasBody_current := ?_, ends := ?_ }, { hreplying with }⟩
    · have hside := hahead.count self.receive.receiveLoopData.requestId
        self.receive.receiveLoopData.receivedBytes self.receive.receiveLoopData.receivedPackets 0
      simpa [parsedSide, unpushed, hpoint, hdrop] using hside
    · simpa [unread, hpoint] using hupcoming
    · simpa [unread, hpoint] using hreceiving.bytes
    · simp [hcompleted]
    · simpa [enqueuedCount, hpoint] using hqueued.enqueued
    · simp
    · simpa [hpoint] using hqueued.hasBody_current
    · intro index hle
      refine (hqueued.ends index hle).of_iff ?_
      simp [bodyQueued, unpushed, hpoint, hdrop]
  | some buffer =>
    have hpushing := halive.pushingBody hpoint hbuffer
    simp only [pushBody]
    cases hpush : self.requestBodyQueue.pushEventually
        (self.bodyEntry self.receive.receiveLoopData.bodyBufferEnqueueIndex buffer) with
    | ready requestBodyQueue => exact ⟨_, hpushing.pushedBody rfl hpush⟩
    | failed => exact absurd hpush (BoundedQueue.pushEventually_ne_failed halive.queued.requestBodyQueue_open _)
    | pending => exact ⟨ledger, hpushing⟩

/-- A request that found room in the request queue joins those before it. -/
theorem Alive.pushedRequest {entry : RequestEntry} {requestQueue : BoundedQueue RequestEntry}
    (halive : Alive requests self current ledger) (hpoint : self.receivePoint = .pushingRequest entry)
    (hpush : self.requestQueue.pushEventually entry = .ready requestQueue) :
    Alive requests { self with requestQueue, receivePoint := .loop } current ledger := by
  obtain ⟨hreceiving, hqueued, hreplying⟩ := halive
  have hvalid := hreceiving.point
  simp only [ReceivePointValid, hpoint] at hvalid
  obtain ⟨hnext, hpassed, hcompleted, henqueued⟩ := hvalid
  obtain ⟨events, hahead, hupcoming⟩ := hreceiving.ahead
  obtain ⟨hopen, -, rfl⟩ := BoundedQueue.pushEventually_eq_ready.mp hpush
  have hcount := hqueued.enqueued
  simp only [enqueuedCount, hpoint] at hcount
  refine ⟨⟨hreceiving.requestId, ⟨events, ?_, ?_⟩, ?_, ⟨hnext, hpassed, fun _ => henqueued⟩, ?_⟩,
    { hqueued with
      enqueued := ?_, requestEntries := ?_, pushingRequest := ?_, hasBody_current := ?_, ends := ?_ },
    { hreplying with }⟩
  · simpa [parsedSide, unpushed, hpoint] using hahead
  · simpa [unread, hpoint] using hupcoming
  · simpa [unread, hpoint] using hreceiving.bytes
  · simp [hcompleted]
  · simp [enqueuedCount, henqueued]
    omega
  · intro index other hother
    obtain hlt | hge := Nat.lt_or_ge index self.requestQueue.items.length
    · rw [List.getElem?_append_left hlt] at hother
      exact hqueued.requestEntries index other hother
    · rw [List.getElem?_append_right hge, List.getElem?_singleton] at hother
      split at hother
      · obtain rfl := Option.some.inj hother
        have hindex : self.calls.length + index = current := by omega
        rw [hindex]
        exact hqueued.pushingRequest entry hpoint
      · cases hother
  · simp
  · simp [henqueued]
  · simpa [bodyQueued, unpushed, hpoint] using hqueued.ends

/-- A request whose headers completed is turned into an entry. -/
theorem Alive.pushingRequest {hasBody : Bool} (halive : Alive requests self current ledger)
    (hpoint : self.receivePoint = .enqueueRequest hasBody)
    (hnot : self.receive.receiveLoopData.requestEnqueued = false)
    (hcompleted : self.receive.state.headersCompleted) :
    Alive requests { self with
      receive := { self.receive with
        newRequest := {}, receiveLoopData := { self.receive.receiveLoopData with requestEnqueued := true } }
      receivePoint := .pushingRequest {
        request := self.receive.newRequest
        id := self.receive.receiveLoopData.requestId
        hasBody := hasBody || self.receive.state != .ReceiveRequestMessageComplete } } current ledger := by
  obtain ⟨hreceiving, hqueued, hreplying⟩ := halive
  have hvalid := hreceiving.point
  simp only [ReceivePointValid, hpoint] at hvalid
  obtain ⟨hnext, hpassed⟩ := hvalid
  obtain ⟨events, hahead, hupcoming⟩ := hreceiving.ahead
  have hparsed : self.parsedSide = self.receive := parsedSide_eq (by simp [unpushed, hpoint, hpassed.1])
  rw [hparsed] at hahead
  refine ⟨⟨hreceiving.requestId, ⟨events, ?_, ?_⟩, ?_, ⟨hnext, hpassed, hcompleted, rfl⟩, ?_⟩,
    { hqueued with enqueued := ?_, pushingRequest := ?_, hasBody_current := ?_, ends := ?_ },
    { hreplying with }⟩
  · rw [parsedSide_eq (by simp [unpushed, hpassed.1])]
    exact hahead.enqueue hcompleted
  · simpa [unread, hpoint] using hupcoming
  · simpa [unread, hpoint] using hreceiving.bytes
  · simp [hcompleted]
  · simpa [enqueuedCount, hpoint, hnot] using hqueued.enqueued
  · intro entry hentry
    obtain ⟨wire, hwire, hrequest, -⟩ := hahead.headersCompleted_spec hcompleted
    have hhasBody := hqueued.hasBody_current hnot
    simp only [hpoint] at hhasBody
    refine ⟨wire, hwire, ?_⟩
    rw [← ReceivePoint.pushingRequest.inj hentry, hrequest hnot, hreceiving.requestId, hhasBody]
  · simp
  · simpa [bodyQueued, unpushed, hpoint] using hqueued.ends

/-- Enqueueing the request once its headers completed keeps the invariant. -/
theorem Alive.enqueueRequest {hasBody : Bool} (halive : Alive requests self current ledger)
    (hpoint : self.receivePoint = .enqueueRequest hasBody) :
    Alive requests (self.enqueueRequestAndContinueReceiving hasBody) current ledger := by
  simp only [enqueueRequestAndContinueReceiving]
  split
  · rename_i hcondition
    have hpushing := halive.pushingRequest hpoint hcondition.1 hcondition.2
    split
    · rename_i requestQueue hpush
      exact hpushing.pushedRequest rfl hpush
    · rename_i hpush
      exact absurd hpush (BoundedQueue.pushEventually_ne_failed halive.queued.requestQueue_open _)
    · exact hpushing
  · rename_i hcondition
    obtain ⟨hreceiving, hqueued, hreplying⟩ := halive
    have hvalid := hreceiving.point
    simp only [ReceivePointValid, hpoint] at hvalid
    obtain ⟨hnext, hpassed⟩ := hvalid
    obtain ⟨events, hahead, hupcoming⟩ := hreceiving.ahead
    have hintime : self.receive.state.headersCompleted → self.receive.receiveLoopData.requestEnqueued = true :=
      fun hcompleted => by simpa [hcompleted] using hcondition
    refine ⟨⟨hreceiving.requestId, ⟨events, ?_, ?_⟩, ?_, ⟨hnext, hpassed, hintime⟩, hreceiving.fresh⟩,
      { hqueued with enqueued := ?_, pushingRequest := ?_, hasBody_current := ?_, ends := ?_ },
      { hreplying with }⟩
    · simpa [parsedSide, unpushed, hpoint] using hahead
    · simpa [unread, hpoint] using hupcoming
    · simpa [unread, hpoint] using hreceiving.bytes
    · simpa [enqueuedCount, hpoint] using hqueued.enqueued
    · simp
    · intro hnot
      have hstate : self.receive.state ≠ .ReceiveRequestMessageComplete := by
        intro hcomplete
        have := hintime (by rw [hcomplete]; rfl)
        rw [hnot] at this
        cases this
      simpa [hpoint, bne_iff_ne.mpr hstate] using hqueued.hasBody_current hnot
    · simpa [bodyQueued, unpushed, hpoint] using hqueued.ends

/-- A step of the receive loop keeps the invariant, or shuts the connection down. -/
theorem Alive.receiveStep {after : Http11ServerConnection} (halive : Alive requests self current ledger)
    (hstep : self.receiveStep = some after) :
    after.Aborted ∨ ∃ current' ledger', Alive requests after current' ledger' := by
  have hvalid := halive.receiving.point
  unfold Http11ServerConnection.receiveStep at hstep
  cases hpoint : self.receivePoint with
  | idle => simp [ReceivePointValid, hpoint] at hvalid
  | failed => simp [ReceivePointValid, hpoint] at hvalid
  | done => simp [ReceivePointValid, hpoint] at hvalid
  | loop =>
    simp only [hpoint, Option.some.injEq] at hstep
    obtain ⟨current', halive⟩ := halive.receiveRequestLoop hpoint
    exact .inr ⟨current', ledger, hstep ▸ halive⟩
  | reading =>
    cases hsocket : self.socketIn with
    | nil => simp [hpoint, hsocket, halive.state_ne] at hstep
    | cons buffer socketIn =>
      simp only [hpoint, hsocket, Option.some.injEq] at hstep
      exact .inr ⟨current, ledger, hstep ▸ halive.read hpoint hsocket⟩
  | received buffer =>
    simp only [hpoint, Option.some.injEq] at hstep
    obtain haborted | ⟨ledger', halive⟩ := halive.receiveBuffer hpoint
    · exact .inl (hstep ▸ haborted)
    · exact .inr ⟨current, ledger', hstep ▸ halive⟩
  | enqueueBody =>
    simp only [hpoint, Option.some.injEq] at hstep
    obtain ⟨ledger', halive⟩ := halive.enqueueBodyBuffers hpoint
    exact .inr ⟨current, ledger', hstep ▸ halive⟩
  | pushingBody entry =>
    cases hpush : self.requestBodyQueue.pushEventually entry with
    | ready requestBodyQueue =>
      simp only [hpoint, hpush, Option.some.injEq] at hstep
      exact .inr ⟨current, _, hstep ▸ halive.pushedBody hpoint hpush⟩
    | failed => exact absurd hpush (BoundedQueue.pushEventually_ne_failed halive.queued.requestBodyQueue_open _)
    | pending => simp [hpoint, hpush] at hstep
  | enqueueRequest hasBody =>
    simp only [hpoint, Option.some.injEq] at hstep
    exact .inr ⟨current, ledger, hstep ▸ halive.enqueueRequest hpoint⟩
  | pushingRequest entry =>
    cases hpush : self.requestQueue.pushEventually entry with
    | ready requestQueue =>
      simp only [hpoint, hpush, Option.some.injEq] at hstep
      exact .inr ⟨current, ledger, hstep ▸ halive.pushedRequest hpoint hpush⟩
    | failed => exact absurd hpush (BoundedQueue.pushEventually_ne_failed halive.queued.requestQueue_open _)
    | pending => simp [hpoint, hpush] at hstep

end cpv.Http11ServerConnection
