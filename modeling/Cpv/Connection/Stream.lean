import Cpv.Connection.Parser

namespace cpv

/-- A request as its client sent it. The target, the header fields, their values
    and the body are whole here, wherever the buffers cut them. -/
structure WireRequest where
  method : SharedString
  http_major : Nat
  http_minor : Nat
  url : SharedString
  headers : List (SharedString × SharedString)
  body : SharedString

/-- Set headers in the order they were received. -/
def storeHeaders (headers : List (SharedString × SharedString)) : HttpRequestHeaders :=
  headers.foldl (fun headers header => headers.setHeader header.1 header.2) {}

/-- The request object a handler should get for a request on the wire. -/
def WireRequest.request (wire : WireRequest) : HttpRequest where
  method := wire.method
  url := wire.url
  version := getHttpVersionString wire.http_major wire.http_minor
  headers := storeHeaders wire.headers

/-- How far a parser is within a message: what is still to come of the part it
    is in, and of the parts after it. -/
inductive Stage
  | begun
  | url (rest : SharedString)
  | field (rest value : SharedString) (headers : List (SharedString × SharedString))
  | value (rest : SharedString) (headers : List (SharedString × SharedString))
  | headers (headers : List (SharedString × SharedString))
  | body (rest : SharedString)
  | complete

/-- Whether an event belongs to a header, which may also be a trailer. -/
def ParserEvent.isHeader : ParserEvent → Prop
  | .headerField _ | .headerValue _ => True
  | _ => False

/-- The callbacks http_parser makes for the rest of a message, in grammar order.
    Every piece of data may be split anywhere. -/
inductive Remaining (wire : WireRequest) : Stage → List ParserEvent → Prop where
  | begun {data rest : SharedString} {events : List ParserEvent} (hurl : wire.url = data ++ rest)
      (tail : Remaining wire (.url rest) events) : Remaining wire .begun (.url data :: events)
  | url {data rest : SharedString} {events : List ParserEvent}
      (tail : Remaining wire (.url rest) events) :
      Remaining wire (.url (data ++ rest)) (.url data :: events)
  | urlEnd {events : List ParserEvent} (tail : Remaining wire (.headers wire.headers) events) :
      Remaining wire (.url []) events
  | header {data rest value : SharedString} {headers : List (SharedString × SharedString)}
      {events : List ParserEvent} (tail : Remaining wire (.field rest value headers) events) :
      Remaining wire (.headers ((data ++ rest, value) :: headers)) (.headerField data :: events)
  | field {data rest value : SharedString} {headers : List (SharedString × SharedString)}
      {events : List ParserEvent} (tail : Remaining wire (.field rest value headers) events) :
      Remaining wire (.field (data ++ rest) value headers) (.headerField data :: events)
  | fieldEnd {data rest : SharedString} {headers : List (SharedString × SharedString)}
      {events : List ParserEvent} (tail : Remaining wire (.value rest headers) events) :
      Remaining wire (.field [] (data ++ rest) headers) (.headerValue data :: events)
  | value {data rest : SharedString} {headers : List (SharedString × SharedString)}
      {events : List ParserEvent} (tail : Remaining wire (.value rest headers) events) :
      Remaining wire (.value (data ++ rest) headers) (.headerValue data :: events)
  | valueEnd {headers : List (SharedString × SharedString)} {events : List ParserEvent}
      (tail : Remaining wire (.headers headers) events) : Remaining wire (.value [] headers) events
  | headersEnd {events : List ParserEvent} (tail : Remaining wire (.body wire.body) events) :
      Remaining wire (.headers [])
        (.headersComplete wire.method wire.http_major wire.http_minor :: events)
  | body {data rest : SharedString} {events : List ParserEvent}
      (tail : Remaining wire (.body rest) events) :
      Remaining wire (.body (data ++ rest)) (.body data :: events)
  | bodyEnd {trailers : List ParserEvent} (htrailers : ∀ event ∈ trailers, event.isHeader) :
      Remaining wire (.body []) (trailers ++ [ParserEvent.messageComplete])
  | complete : Remaining wire .complete []

/-- The callbacks http_parser makes for a stream of requests. -/
inductive StreamEvents : List WireRequest → List ParserEvent → Prop where
  | nil : StreamEvents [] []
  | cons {wire : WireRequest} {requests : List WireRequest} {events later : List ParserEvent}
      (head : Remaining wire .begun events) (tail : StreamEvents requests later) :
      StreamEvents (wire :: requests) (.messageBegin :: events ++ later)

/-- The callbacks of some tokens: every event but the bytes without one. -/
def callbacks (tokens : List ParserToken) : List ParserEvent :=
  (tokens.map (·.event)).filter fun event => match event with
    | .skip => false
    | _ => true

/-- The buffers to be read from a socket carry a stream of requests, cut off
    anywhere. The end of the headers takes bytes of its own. -/
structure Carries (requests : List WireRequest) (socketIn : List (List ParserToken)) : Prop where
  callbacks_begin : ∃ events, StreamEvents requests events ∧ callbacks socketIn.flatten <+: events
  headersComplete_bytes : ∀ token ∈ socketIn.flatten, ∀ method http_major http_minor,
    token.event = .headersComplete method http_major http_minor → 0 < token.bytes

theorem callbacks_append (first second : List ParserToken) :
    callbacks (first ++ second) = callbacks first ++ callbacks second := by
  simp [callbacks]

theorem callbacks_cons_skip {token : ParserToken} (hskip : token.event = .skip)
    (tokens : List ParserToken) : callbacks (token :: tokens) = callbacks tokens := by
  simp [callbacks, hskip]

theorem callbacks_cons {token : ParserToken} (hskip : token.event ≠ .skip)
    (tokens : List ParserToken) : callbacks (token :: tokens) = token.event :: callbacks tokens := by
  unfold callbacks
  rw [List.map_cons, List.filter_cons]
  cases hevent : token.event <;> simp_all

theorem ReceiveSide.on_body_eq (side : ReceiveSide)
    (hstate : side.state = .ReceiveRequestHeadersComplete ∨ side.state = .ReceiveRequestBody)
    (data : SharedString) :
    side.on_body data = some { side with
      state := .ReceiveRequestBody
      receiveLoopData := { side.receiveLoopData with
        bodyBuffers := side.receiveLoopData.bodyBuffers ++ [data] } } := by
  unfold on_body
  obtain hstate | hstate := hstate <;> simp [hstate]

theorem ReceiveSide.on_message_complete_eq (side : ReceiveSide)
    (hstate : side.state = .ReceiveRequestHeadersComplete ∨ side.state = .ReceiveRequestBody) :
    side.on_message_complete = some { side with
      state := .ReceiveRequestMessageComplete
      receiveLoopData := { side.receiveLoopData with
        bodyBuffers := if side.receiveLoopData.requestEnqueued ∧ side.receiveLoopData.bodyBuffers = []
          then [[]] else side.receiveLoopData.bodyBuffers } } := by
  unfold on_message_complete
  obtain hstate | hstate := hstate <;> simp [hstate]

/-- The parser callbacks have reached a stage of a message. `passed` is the body
    data that left the connection's buffers before. -/
def Parsed (wire : WireRequest) (passed : SharedString) (side : ReceiveSide) : Stage → Prop
  | .begun => side.state = .ReceiveRequestMessageBegin ∧ side.newRequest = {} ∧
      side.receiveLoopData.bodyBuffers = [] ∧ passed = []
  | .url rest => side.state = .ReceiveRequestUrl ∧ side.newRequest = {} ∧
      side.receiveLoopData.bodyBuffers = [] ∧ passed = [] ∧
      side.receiveLoopData.url ++ rest = wire.url
  | .field rest value headers => side.state = .ReceiveRequestHeaderField ∧
      side.receiveLoopData.bodyBuffers = [] ∧ passed = [] ∧
      side.receiveLoopData.url = wire.url ∧ ∃ before,
        side.newRequest = { headers := storeHeaders before } ∧
        wire.headers = before ++ (side.receiveLoopData.headerField ++ rest, value) :: headers
  | .value rest headers => side.state = .ReceiveRequestHeaderValue ∧
      side.receiveLoopData.bodyBuffers = [] ∧ passed = [] ∧
      side.receiveLoopData.url = wire.url ∧ ∃ before,
        side.newRequest = { headers := storeHeaders before } ∧
        wire.headers = before ++
          (side.receiveLoopData.headerField, side.receiveLoopData.headerValue ++ rest) :: headers
  | .headers headers => side.receiveLoopData.bodyBuffers = [] ∧ passed = [] ∧
      side.receiveLoopData.url = wire.url ∧
      ((side.state = .ReceiveRequestUrl ∧ side.newRequest = {} ∧ wire.headers = headers) ∨
        (side.state = .ReceiveRequestHeaderValue ∧ ∃ before,
          side.newRequest = { headers := storeHeaders before } ∧
          wire.headers = before ++
            (side.receiveLoopData.headerField, side.receiveLoopData.headerValue) :: headers))
  | .body rest =>
      ((side.state = .ReceiveRequestHeadersComplete ∧ side.receiveLoopData.bodyBuffers = [] ∧
          passed = []) ∨ side.state = .ReceiveRequestBody) ∧
      (side.receiveLoopData.requestEnqueued = false → side.newRequest = wire.request) ∧
      passed ++ side.receiveLoopData.bodyBuffers.flatten ++ rest = wire.body
  | .complete => side.state = .ReceiveRequestMessageComplete ∧
      (side.receiveLoopData.requestEnqueued = false → side.newRequest = wire.request) ∧
      passed ++ side.receiveLoopData.bodyBuffers.flatten = wire.body

/-- One more callback of a message takes the parser one stage further. Only a
    trailer is refused. -/
theorem Remaining.callback_spec {wire : WireRequest} {passed : SharedString} {side : ReceiveSide}
    {stage : Stage} {event : ParserEvent} {events : List ParserEvent}
    (hremaining : Remaining wire stage (event :: events)) (hparsed : Parsed wire passed side stage) :
    (∃ next after, side.callback event = some next ∧ Parsed wire passed next after ∧
      Remaining wire after events) ∨
    (side.callback event = none ∧ event.isHeader ∧ side.state ≠ .ReceiveRequestMessageComplete) := by
  generalize hall : event :: events = all at hremaining
  induction hremaining with
  | begun hurl tail =>
    obtain ⟨rfl, rfl⟩ := List.cons.inj hall
    obtain ⟨hstate, hrequest, hbuffers, hpassed⟩ := hparsed
    refine .inl ⟨_, _, by simp [ReceiveSide.callback, ReceiveSide.on_url, hstate]; rfl, ?_, tail⟩
    exact ⟨rfl, hrequest, hbuffers, hpassed, hurl.symm⟩
  | url tail =>
    obtain ⟨rfl, rfl⟩ := List.cons.inj hall
    obtain ⟨hstate, hrequest, hbuffers, hpassed, hurl⟩ := hparsed
    refine .inl ⟨_, _, by simp [ReceiveSide.callback, ReceiveSide.on_url, hstate]; rfl, ?_, tail⟩
    exact ⟨rfl, hrequest, hbuffers, hpassed, by simpa using hurl⟩
  | urlEnd tail ih =>
    obtain ⟨hstate, hrequest, hbuffers, hpassed, hurl⟩ := hparsed
    exact ih ⟨hbuffers, hpassed, by simpa using hurl, .inl ⟨hstate, hrequest, rfl⟩⟩ hall
  | header tail =>
    obtain ⟨rfl, rfl⟩ := List.cons.inj hall
    obtain ⟨hbuffers, hpassed, hurl, ⟨hstate, hrequest, hheaders⟩ |
      ⟨hstate, before, hrequest, hheaders⟩⟩ := hparsed
    · refine .inl ⟨_, _, by simp [ReceiveSide.callback, ReceiveSide.on_header_field, hstate]; rfl,
        ?_, tail⟩
      exact ⟨rfl, hbuffers, hpassed, hurl, [], by simp [hrequest, storeHeaders], hheaders⟩
    · refine .inl ⟨_, _, by simp [ReceiveSide.callback, ReceiveSide.on_header_field, hstate]; rfl,
        ?_, tail⟩
      refine ⟨rfl, hbuffers, hpassed, hurl,
        before ++ [(side.receiveLoopData.headerField, side.receiveLoopData.headerValue)], ?_, ?_⟩
      · simp [ReceiveSide.storeHeader, hrequest, storeHeaders]
      · simpa using hheaders
  | field tail =>
    obtain ⟨rfl, rfl⟩ := List.cons.inj hall
    obtain ⟨hstate, hbuffers, hpassed, hurl, before, hrequest, hheaders⟩ := hparsed
    refine .inl ⟨_, _, by simp [ReceiveSide.callback, ReceiveSide.on_header_field, hstate]; rfl,
      ?_, tail⟩
    exact ⟨rfl, hbuffers, hpassed, hurl, before, hrequest, by simpa using hheaders⟩
  | fieldEnd tail =>
    obtain ⟨rfl, rfl⟩ := List.cons.inj hall
    obtain ⟨hstate, hbuffers, hpassed, hurl, before, hrequest, hheaders⟩ := hparsed
    refine .inl ⟨_, _, by simp [ReceiveSide.callback, ReceiveSide.on_header_value, hstate]; rfl,
      ?_, tail⟩
    exact ⟨rfl, hbuffers, hpassed, hurl, before, hrequest, by simpa using hheaders⟩
  | value tail =>
    obtain ⟨rfl, rfl⟩ := List.cons.inj hall
    obtain ⟨hstate, hbuffers, hpassed, hurl, before, hrequest, hheaders⟩ := hparsed
    refine .inl ⟨_, _, by simp [ReceiveSide.callback, ReceiveSide.on_header_value, hstate]; rfl,
      ?_, tail⟩
    exact ⟨rfl, hbuffers, hpassed, hurl, before, hrequest, by simpa using hheaders⟩
  | valueEnd tail ih =>
    obtain ⟨hstate, hbuffers, hpassed, hurl, before, hrequest, hheaders⟩ := hparsed
    exact ih ⟨hbuffers, hpassed, hurl, .inr ⟨hstate, before, hrequest, by simpa using hheaders⟩⟩ hall
  | headersEnd tail =>
    obtain ⟨rfl, rfl⟩ := List.cons.inj hall
    obtain ⟨hbuffers, hpassed, hurl, ⟨hstate, hrequest, hheaders⟩ |
      ⟨hstate, before, hrequest, hheaders⟩⟩ := hparsed
    · refine .inl ⟨_, _, by simp [ReceiveSide.callback, ReceiveSide.on_headers_complete, hstate]; rfl,
        ?_, tail⟩
      refine ⟨.inl ⟨rfl, hbuffers, hpassed⟩, fun _ => ?_, ?_⟩
      · simp [ReceiveSide.storeRequestLine, WireRequest.request, hrequest, hheaders, storeHeaders, hurl]
      · simp [ReceiveSide.storeRequestLine, hbuffers, hpassed]
    · refine .inl ⟨_, _, by simp [ReceiveSide.callback, ReceiveSide.on_headers_complete, hstate]; rfl,
        ?_, tail⟩
      refine ⟨.inl ⟨rfl, hbuffers, hpassed⟩, fun _ => ?_, ?_⟩
      · simp [ReceiveSide.storeRequestLine, ReceiveSide.storeHeader, WireRequest.request, hrequest,
          hheaders, storeHeaders, hurl]
      · simp [ReceiveSide.storeRequestLine, ReceiveSide.storeHeader, hbuffers, hpassed]
  | @body data rest events tail =>
    obtain ⟨rfl, rfl⟩ := List.cons.inj hall
    obtain ⟨hstate, hrequest, hbody⟩ := hparsed
    refine .inl ⟨_, _, side.on_body_eq (hstate.imp_left And.left) data, ?_, tail⟩
    exact ⟨.inr rfl, hrequest, by simpa using hbody⟩
  | @bodyEnd trailers htrailers =>
    obtain ⟨hstate, hrequest, hbody⟩ := hparsed
    cases trailers with
    | nil =>
      obtain ⟨rfl, rfl⟩ := List.cons.inj hall
      refine .inl ⟨_, .complete, side.on_message_complete_eq (hstate.imp_left And.left), ?_, .complete⟩
      refine ⟨rfl, hrequest, ?_⟩
      rw [List.append_nil] at hbody
      rw [← hbody]
      by_cases htail : side.receiveLoopData.requestEnqueued ∧ side.receiveLoopData.bodyBuffers = []
      · simp [htail]
      · simp [htail]
    | cons trailer trailers =>
      obtain ⟨rfl, rfl⟩ := List.cons.inj hall
      have htrailer := htrailers event (by simp)
      refine .inr ⟨?_, htrailer, ?_⟩
      · cases event <;> simp [ParserEvent.isHeader] at htrailer <;>
          obtain ⟨hstate, -, -⟩ | hstate := hstate <;>
          simp [ReceiveSide.callback, ReceiveSide.on_header_field, ReceiveSide.on_header_value, hstate]
      · obtain ⟨hstate, -, -⟩ | hstate := hstate <;> simp [hstate]
  | complete => cases hall

theorem Remaining.complete_of_nil {wire : WireRequest} {stage : Stage}
    (hremaining : Remaining wire stage []) : stage = .complete := by
  generalize hnil : ([] : List ParserEvent) = events at hremaining
  induction hremaining with
  | complete => rfl
  | urlEnd tail ih => cases ih hnil
  | valueEnd tail ih => cases ih hnil
  | bodyEnd => simp at hnil
  | _ => cases hnil

/-- Before the headers of a message are complete no other message begins. -/
theorem Remaining.head_spec {wire : WireRequest} {stage : Stage} {events : List ParserEvent}
    (hremaining : Remaining wire stage events)
    (hstage : ∀ rest, stage ≠ .body rest) (hcomplete : stage ≠ .complete) :
    ∃ head tail method http_major http_minor,
      events = head ++ ParserEvent.headersComplete method http_major http_minor :: tail ∧
        .messageBegin ∉ head := by
  induction hremaining with
  | headersEnd tail => exact ⟨[], _, _, _, _, rfl, by simp⟩
  | body => exact absurd rfl (hstage _)
  | bodyEnd => exact absurd rfl (hstage _)
  | complete => exact absurd rfl hcomplete
  | urlEnd tail ih => exact ih (by simp) (by simp)
  | valueEnd tail ih => exact ih (by simp) (by simp)
  | begun hurl tail ih =>
    obtain ⟨head, _, method, http_major, http_minor, rfl, hhead⟩ := ih (by simp) (by simp)
    exact ⟨_ :: head, _, method, http_major, http_minor, rfl, by simp [hhead]⟩
  | _ tail ih =>
    obtain ⟨head, _, method, http_major, http_minor, rfl, hhead⟩ := ih (by simp) (by simp)
    exact ⟨_ :: head, _, method, http_major, http_minor, rfl, by simp [hhead]⟩

/-- Once the begin of a message is lost, the next message cannot begin before
    the end of the headers was lost too. -/
theorem StreamEvents.head_ne_messageBegin {requests : List WireRequest}
    {events lost later : List ParserEvent} (hstream : StreamEvents requests events)
    (hpre : .messageBegin :: lost ++ later <+: events)
    (hlost : ∀ event ∈ lost, ∀ method http_major http_minor,
      event ≠ .headersComplete method http_major http_minor) :
    ∀ event ∈ later.head?, event ≠ .messageBegin := by
  intro event hevent hbegin
  obtain ⟨rest, rfl⟩ : ∃ rest, later = event :: rest := by
    cases later with
    | nil => simp at hevent
    | cons first rest =>
      obtain rfl : first = event := by simpa using hevent
      exact ⟨rest, rfl⟩
  cases hstream with
  | nil => simp at hpre
  | @cons wire requests message after head tail =>
    obtain ⟨front, tail, method, http_major, http_minor, rfl, hfront⟩ :=
      head.head_spec (by simp) (by simp)
    simp only [List.cons_append, List.append_assoc] at hpre
    obtain ⟨-, final, hfinal⟩ := List.cons_prefix_cons.mp hpre
    simp only [List.append_assoc, List.cons_append] at hfinal
    obtain ⟨more, hmore, hevents⟩ | ⟨more, hmore, hevents⟩ := List.append_eq_append_iff.mp hfinal
    · cases more with
      | nil =>
        obtain ⟨rfl, -⟩ := List.cons.inj hevents
        cases hbegin
      | cons =>
        obtain ⟨rfl, -⟩ := List.cons.inj hevents
        exact hfront (by simp [hmore, hbegin])
    · cases more with
      | nil =>
        obtain ⟨rfl, -⟩ := List.cons.inj hevents
        cases hbegin
      | cons =>
        obtain ⟨rfl, -⟩ := List.cons.inj hevents
        exact hlost _ (by simp [hmore]) method http_major http_minor rfl

/-- The callbacks still to come for a connection that receives request number
    `current`, or waits for it to begin. -/
inductive Ahead (requests : List WireRequest) (current : Nat) (passed : SharedString)
    (side : ReceiveSide) : List ParserEvent → Prop where
  | started {events : List ParserEvent} (hstate : side.state = .Started)
      (hrequest : side.newRequest = {}) (hbuffers : side.receiveLoopData.bodyBuffers = [])
      (hpassed : passed = []) (hstream : StreamEvents (requests.drop current) events) :
      Ahead requests current passed side events
  | within {wire : WireRequest} {stage : Stage} {message later : List ParserEvent}
      (hwire : requests[current]? = some wire) (hparsed : Parsed wire passed side stage)
      (hremaining : Remaining wire stage message)
      (hstream : StreamEvents (requests.drop (current + 1)) later) :
      Ahead requests current passed side (message ++ later)

/-- One more callback is accepted, or it begins the next request of a pipeline,
    or it belongs to a trailer. -/
theorem Ahead.callback_spec {requests : List WireRequest} {current : Nat} {passed : SharedString}
    {side : ReceiveSide} {event : ParserEvent} {events : List ParserEvent}
    (hahead : Ahead requests current passed side (event :: events)) :
    (∃ next, side.callback event = some next ∧ Ahead requests current passed next events) ∨
    (side.callback event = none ∧ event = .messageBegin ∧ side.state = .ReceiveRequestMessageComplete) ∨
    (side.callback event = none ∧ event.isHeader ∧ side.state ≠ .ReceiveRequestMessageComplete) := by
  generalize hall : event :: events = all at hahead
  cases hahead with
  | started hstate hrequest hbuffers hpassed hstream =>
    generalize hrest : requests.drop current = rest at hstream
    cases hstream with
    | nil => cases hall
    | @cons wire rest message later head tail =>
      obtain ⟨rfl, rfl⟩ := List.cons.inj hall
      have hwire : requests[current]? = some wire := by
        rw [← List.head?_drop, hrest]
        rfl
      have hdrop : requests.drop (current + 1) = rest := by
        rw [← List.tail_drop, hrest]
        rfl
      have hparsed : Parsed wire passed { side with state := .ReceiveRequestMessageBegin } .begun :=
        ⟨rfl, hrequest, hbuffers, hpassed⟩
      refine .inl ⟨_, ?_, .within hwire hparsed head (hdrop ▸ tail)⟩
      simp [ReceiveSide.callback, ReceiveSide.on_message_begin, hstate]
  | @within wire stage message later hwire hparsed hremaining hstream =>
    cases message with
    | nil =>
      obtain rfl := hremaining.complete_of_nil
      generalize requests.drop (current + 1) = rest at hstream
      cases hstream with
      | nil => cases hall
      | cons =>
        obtain ⟨rfl, -⟩ := List.cons.inj hall
        refine .inr (.inl ⟨?_, rfl, hparsed.1⟩)
        simp [ReceiveSide.callback, ReceiveSide.on_message_begin, hparsed.1]
    | cons first message =>
      obtain ⟨rfl, rfl⟩ := List.cons.inj hall
      obtain ⟨next, after, hcallback, hparsed, hremaining⟩ | ⟨hrefused, hheader, hstate⟩ :=
        hremaining.callback_spec hparsed
      · exact .inl ⟨next, hcallback, .within hwire hparsed hremaining hstream⟩
      · exact .inr (.inr ⟨hrefused, hheader, hstate⟩)

/-- Counting what was received leaves the callbacks still to come alone. -/
theorem Ahead.count {requests : List WireRequest} {current : Nat} {passed : SharedString}
    {side : ReceiveSide} {events : List ParserEvent} (hahead : Ahead requests current passed side events)
    (requestId : UInt32) (receivedBytes receivedPackets bodyBufferEnqueueIndex : Nat) :
    Ahead requests current passed { side with receiveLoopData := { side.receiveLoopData with
      requestId, receivedBytes, receivedPackets, bodyBufferEnqueueIndex } } events := by
  cases hahead with
  | started hstate hrequest hbuffers hpassed hstream =>
    exact .started hstate hrequest hbuffers hpassed hstream
  | @within wire stage _ _ hwire hparsed hremaining hstream =>
    refine .within hwire ?_ hremaining hstream
    cases stage <;> exact hparsed

/-- What is known of a request whose headers are complete: the request object
    until it is enqueued, and that the body data received so far begins its body. -/
theorem Ahead.headersCompleted_spec {requests : List WireRequest} {current : Nat}
    {passed : SharedString} {side : ReceiveSide} {events : List ParserEvent}
    (hahead : Ahead requests current passed side events) (hstate : side.state.headersCompleted) :
    ∃ wire, requests[current]? = some wire ∧
      (side.receiveLoopData.requestEnqueued = false → side.newRequest = wire.request) ∧
      passed ++ side.receiveLoopData.bodyBuffers.flatten <+: wire.body ∧
      (side.state = .ReceiveRequestMessageComplete →
        passed ++ side.receiveLoopData.bodyBuffers.flatten = wire.body) := by
  cases hahead with
  | started hstarted => simp [hstarted, Http11ServerConnectionState.headersCompleted] at hstate
  | @within wire stage _ _ hwire hparsed =>
    refine ⟨wire, hwire, ?_⟩
    cases stage with
    | begun => simp [hparsed.1, Http11ServerConnectionState.headersCompleted] at hstate
    | url => simp [hparsed.1, Http11ServerConnectionState.headersCompleted] at hstate
    | field => simp [hparsed.1, Http11ServerConnectionState.headersCompleted] at hstate
    | value => simp [hparsed.1, Http11ServerConnectionState.headersCompleted] at hstate
    | headers =>
      obtain ⟨-, -, -, ⟨hurl, -⟩ | ⟨hvalue, -⟩⟩ := hparsed
      · simp [hurl, Http11ServerConnectionState.headersCompleted] at hstate
      · simp [hvalue, Http11ServerConnectionState.headersCompleted] at hstate
    | body rest =>
      obtain ⟨hbody, hrequest, hwhole⟩ := hparsed
      refine ⟨hrequest, ⟨rest, hwhole⟩, fun hcomplete => ?_⟩
      simp [hcomplete] at hbody
    | complete =>
      obtain ⟨-, hrequest, hwhole⟩ := hparsed
      exact ⟨hrequest, hwhole ▸ List.prefix_refl _, fun _ => hwhole⟩

/-- A message only has body data once its headers are complete. -/
theorem Ahead.headersCompleted_of_body {requests : List WireRequest} {current : Nat}
    {passed : SharedString} {side : ReceiveSide} {events : List ParserEvent}
    (hahead : Ahead requests current passed side events)
    (hbody : side.receiveLoopData.bodyBuffers ≠ []) :
    side.state = .ReceiveRequestBody ∨ side.state = .ReceiveRequestMessageComplete := by
  cases hahead with
  | started _ _ hbuffers => exact absurd hbuffers hbody
  | @within _ stage _ _ _ hparsed =>
    cases stage with
    | begun => exact absurd hparsed.2.2.1 hbody
    | url => exact absurd hparsed.2.2.1 hbody
    | field => exact absurd hparsed.2.1 hbody
    | value => exact absurd hparsed.2.1 hbody
    | headers => exact absurd hparsed.1 hbody
    | body => exact .inl (hparsed.1.resolve_left fun h => hbody h.2.1)
    | complete => exact .inr hparsed.1

/-- The states the callbacks of a stream lead to. -/
theorem Ahead.state_ne {requests : List WireRequest} {current : Nat} {passed : SharedString}
    {side : ReceiveSide} {events : List ParserEvent}
    (hahead : Ahead requests current passed side events) :
    side.state ≠ .Initial ∧ side.state ≠ .Closing ∧ side.state ≠ .Closed := by
  cases hahead with
  | started hstate => simp [hstate]
  | @within _ stage _ _ _ hparsed =>
    cases stage with
    | headers => obtain ⟨-, -, -, ⟨hstate, -⟩ | ⟨hstate, -⟩⟩ := hparsed <;> simp [hstate]
    | body => obtain ⟨⟨hstate, -⟩ | hstate, -⟩ := hparsed <;> simp [hstate]
    | _ => simp [hparsed.1]

/-- The first body buffer may be passed on. -/
theorem Ahead.pass {requests : List WireRequest} {current : Nat} {passed : SharedString}
    {side : ReceiveSide} {events : List ParserEvent} {buffer : SharedString}
    {bodyBuffers : List SharedString} (hahead : Ahead requests current passed side events)
    (hbuffers : side.receiveLoopData.bodyBuffers = buffer :: bodyBuffers) :
    Ahead requests current (passed ++ buffer)
      { side with receiveLoopData := { side.receiveLoopData with bodyBuffers } } events := by
  have hstate := hahead.headersCompleted_of_body (by simp [hbuffers])
  cases hahead with
  | started hstarted => simp [hstarted] at hstate
  | @within wire stage _ _ hwire hparsed hremaining hstream =>
    refine .within hwire ?_ hremaining hstream
    cases stage with
    | headers => simp [hparsed.1] at hbuffers
    | body rest =>
      obtain ⟨hbody, hrequest, hwhole⟩ := hparsed
      refine ⟨.inr (hbody.resolve_left fun h => by simp [h.2.1] at hbuffers), hrequest, ?_⟩
      simpa [hbuffers] using hwhole
    | complete =>
      obtain ⟨hcomplete, hrequest, hwhole⟩ := hparsed
      exact ⟨hcomplete, hrequest, by simpa [hbuffers] using hwhole⟩
    | _ => simp [hparsed.1] at hstate

/-- The request object may be passed on once its headers are complete. -/
theorem Ahead.enqueue {requests : List WireRequest} {current : Nat} {passed : SharedString}
    {side : ReceiveSide} {events : List ParserEvent}
    (hahead : Ahead requests current passed side events) (hstate : side.state.headersCompleted) :
    Ahead requests current passed { side with
      newRequest := {}
      receiveLoopData := { side.receiveLoopData with requestEnqueued := true } } events := by
  cases hahead with
  | started hstarted => simp [hstarted, Http11ServerConnectionState.headersCompleted] at hstate
  | @within wire stage _ _ hwire hparsed hremaining hstream =>
    refine .within hwire ?_ hremaining hstream
    cases stage with
    | headers =>
      obtain ⟨-, -, -, ⟨hurl, -⟩ | ⟨hvalue, -⟩⟩ := hparsed
      · simp [hurl, Http11ServerConnectionState.headersCompleted] at hstate
      · simp [hvalue, Http11ServerConnectionState.headersCompleted] at hstate
    | body => exact ⟨hparsed.1, by simp, hparsed.2.2⟩
    | complete => exact ⟨hparsed.1, by simp, hparsed.2.2⟩
    | _ => simp [hparsed.1, Http11ServerConnectionState.headersCompleted] at hstate

/-- After a complete message only later messages are still to come. -/
theorem Ahead.stream_of_complete {requests : List WireRequest} {current : Nat} {passed : SharedString}
    {side : ReceiveSide} {events : List ParserEvent}
    (hahead : Ahead requests current passed side events)
    (hstate : side.state = .ReceiveRequestMessageComplete) :
    StreamEvents (requests.drop (current + 1)) events := by
  cases hahead with
  | started hstarted => simp [hstarted] at hstate
  | @within wire stage message later hwire hparsed hremaining hstream =>
    cases stage with
    | complete =>
      cases hremaining
      exact hstream
    | headers => obtain ⟨-, -, -, ⟨hurl, -⟩ | ⟨hvalue, -⟩⟩ := hparsed <;> simp_all
    | body => obtain ⟨⟨hbody, -⟩ | hbody, -⟩ := hparsed <;> simp_all
    | _ => simp [hparsed.1] at hstate

/-- A message that completes after its request was enqueued has body data left,
    if only an empty tail. -/
def TailPresent (side : ReceiveSide) : Prop :=
  side.state = .ReceiveRequestMessageComplete → side.receiveLoopData.requestEnqueued = true →
    side.receiveLoopData.bodyBuffers ≠ []

/-- Callbacks leave the numbering and the enqueueing of the request alone. -/
theorem ReceiveSide.callback_frame {side next : ReceiveSide} {event : ParserEvent}
    (hcallback : side.callback event = some next) :
    next.receiveLoopData.requestId = side.receiveLoopData.requestId ∧
      next.receiveLoopData.bodyBufferEnqueueIndex = side.receiveLoopData.bodyBufferEnqueueIndex ∧
      next.receiveLoopData.requestEnqueued = side.receiveLoopData.requestEnqueued ∧
      (side.state.headersCompleted → next.state.headersCompleted) ∧
      (TailPresent side → TailPresent next) := by
  cases event with
  | skip =>
    obtain rfl : side = next := by simpa [callback] using hcallback
    exact ⟨rfl, rfl, rfl, id, id⟩
  | error => simp [callback] at hcallback
  | messageComplete =>
    simp only [callback, on_message_complete] at hcallback
    split at hcallback <;> cases hcallback
    all_goals
      refine ⟨rfl, rfl, rfl, fun _ => rfl, fun _ _ henqueued => ?_⟩
      by_cases hbuffers : side.receiveLoopData.bodyBuffers = []
      · simp_all
      · simp [hbuffers]
  | _ =>
    simp only [callback, on_message_begin, on_url, on_header_field, on_header_value,
      on_headers_complete, on_body] at hcallback
    split at hcallback <;> cases hcallback <;>
      simp_all [storeHeader, storeRequestLine, Http11ServerConnectionState.headersCompleted, TailPresent]

/-- What every callback keeps, a scan keeps. -/
theorem httpParserScan_preserves {P : ReceiveSide → Prop}
    (hcallback : ∀ side event next, side.callback event = some next → P side → P next)
    {side : ReceiveSide} (parsedSize : Nat) (tokens : List ParserToken) (hside : P side) :
    P (httpParserScan side parsedSize tokens).side := by
  induction tokens generalizing side parsedSize with
  | nil => exact hside
  | cons token tokens ih =>
    rw [httpParserScan]
    cases hevent : side.callback token.event with
    | none => exact hside
    | some next => exact ih (parsedSize + token.bytes) (hcallback side token.event next hevent hside)

theorem httpParserScan_frame {side : ReceiveSide} {tokens : List ParserToken} (parsedSize : Nat)
    (htail : TailPresent side) :
    let result := httpParserScan side parsedSize tokens
    result.side.receiveLoopData.requestId = side.receiveLoopData.requestId ∧
      result.side.receiveLoopData.bodyBufferEnqueueIndex = side.receiveLoopData.bodyBufferEnqueueIndex ∧
      result.side.receiveLoopData.requestEnqueued = side.receiveLoopData.requestEnqueued ∧
      (side.state.headersCompleted → result.side.state.headersCompleted) ∧ TailPresent result.side := by
  refine httpParserScan_preserves (P := fun next =>
    next.receiveLoopData.requestId = side.receiveLoopData.requestId ∧
      next.receiveLoopData.bodyBufferEnqueueIndex = side.receiveLoopData.bodyBufferEnqueueIndex ∧
      next.receiveLoopData.requestEnqueued = side.receiveLoopData.requestEnqueued ∧
      (side.state.headersCompleted → next.state.headersCompleted) ∧ TailPresent next) ?_
    parsedSize tokens ⟨rfl, rfl, rfl, id, htail⟩
  rintro before event next hcallback ⟨hid, hindex, henqueued, hstate, htail⟩
  obtain ⟨hid', hindex', henqueued', hstate', htail'⟩ := ReceiveSide.callback_frame hcallback
  exact ⟨hid'.trans hid, hindex'.trans hindex, henqueued'.trans henqueued, hstate' ∘ hstate, htail' htail⟩

theorem ParserEvent.errno_of_isHeader {event : ParserEvent} (hheader : event.isHeader) : event.errno = .HPE_other := by
  cases event with
  | messageBegin => cases hheader
  | _ => rfl

/-- A scan of callbacks still to come ends with the buffer, or at the begin of
    the next request of a pipeline, or at a trailer. -/
theorem httpParserScan_ahead {requests : List WireRequest} {current : Nat} {passed : SharedString}
    {side : ReceiveSide} {tokens : List ParserToken} {later events : List ParserEvent}
    (parsedSize : Nat) (hahead : Ahead requests current passed side events)
    (hpre : callbacks tokens ++ later <+: events) :
    let result := httpParserScan side parsedSize tokens
    ∃ ahead, Ahead requests current passed result.side ahead ∧
      ((result.errno = .HPE_OK ∧ later <+: ahead) ∨
        (result.errno = .HPE_CB_message_begin ∧ result.side.state = .ReceiveRequestMessageComplete ∧
          ∃ token rest, token.event = .messageBegin ∧ token.bytes = 1 ∧
            result.rest = token :: rest ∧ rest <:+ tokens ∧
            result.parsedSize + bufferSize rest = parsedSize + bufferSize tokens ∧
            .messageBegin :: callbacks rest ++ later <+: ahead) ∨
        (result.errno = .HPE_other ∧ result.side.state ≠ .ReceiveRequestMessageComplete)) := by
  induction tokens generalizing side parsedSize events with
  | nil => exact ⟨events, hahead, .inl ⟨rfl, hpre⟩⟩
  | cons token tokens ih =>
    have hsize : parsedSize + bufferSize (token :: tokens) =
        parsedSize + token.bytes + bufferSize tokens := by
      simp [bufferSize]
      omega
    by_cases hskip : token.event = .skip
    · rw [callbacks_cons_skip hskip] at hpre
      have hcallback : side.callback token.event = some side := by simp [hskip, ReceiveSide.callback]
      obtain ⟨ahead, hahead, hresult⟩ := ih (parsedSize + token.bytes) hahead hpre
      simp only [httpParserScan, hcallback, hsize]
      refine ⟨ahead, hahead, hresult.imp_right (.imp_left ?_)⟩
      rintro ⟨herrno, hstate, first, rest, hbegin, hbytes, hrest, hsuffix, hparsed⟩
      exact ⟨herrno, hstate, first, rest, hbegin, hbytes, hrest, hsuffix.trans (List.suffix_cons _ _),
        hparsed⟩
    · rw [callbacks_cons hskip, List.cons_append] at hpre
      cases events with
      | nil => simp at hpre
      | cons event events =>
        obtain ⟨rfl, htail⟩ := List.cons_prefix_cons.mp hpre
        obtain ⟨next, hcallback, hnext⟩ | ⟨hcallback, hbegin, hstate⟩ | ⟨hcallback, hheader, hstate⟩ :=
          hahead.callback_spec
        · obtain ⟨ahead, hahead, hresult⟩ := ih (parsedSize + token.bytes) hnext htail
          simp only [httpParserScan, hcallback, hsize]
          refine ⟨ahead, hahead, hresult.imp_right (.imp_left ?_)⟩
          rintro ⟨herrno, hstate, first, rest, hbegin, hbytes, hrest, hsuffix, hparsed⟩
          exact ⟨herrno, hstate, first, rest, hbegin, hbytes, hrest,
            hsuffix.trans (List.suffix_cons _ _), hparsed⟩
        · simp only [httpParserScan, hcallback, hsize]
          refine ⟨_, hahead, .inr (.inl ⟨by rw [hbegin]; rfl, hstate, { token with bytes := 1 }, tokens,
            hbegin, rfl, rfl, List.suffix_cons _ _, by simp [ParserToken.bytesRefused, hbegin], ?_⟩)⟩
          rw [hbegin, List.cons_append]
          exact List.cons_prefix_cons.mpr ⟨rfl, htail⟩
        · simp only [httpParserScan, hcallback]
          exact ⟨_, hahead, .inr (.inr ⟨ParserEvent.errno_of_isHeader hheader, hstate⟩)⟩

/-- A parser that lost the begin of a request refuses whatever comes first. -/
theorem httpParserScan_lost {side : ReceiveSide} {tokens : List ParserToken} (parsedSize : Nat)
    (hstate : side.state = .Started)
    (hbegin : ∀ event ∈ (callbacks tokens).head?, event ≠ .messageBegin) :
    let result := httpParserScan side parsedSize tokens
    result.side = side ∧
      ((result.errno = .HPE_OK ∧ callbacks tokens = []) ∨ result.errno = .HPE_other) := by
  induction tokens generalizing parsedSize with
  | nil => exact ⟨rfl, .inl ⟨rfl, rfl⟩⟩
  | cons token tokens ih =>
    by_cases hskip : token.event = .skip
    · rw [callbacks_cons_skip hskip] at hbegin ⊢
      have hcallback : side.callback token.event = some side := by simp [hskip, ReceiveSide.callback]
      simp only [httpParserScan, hcallback]
      exact ih (parsedSize + token.bytes) hbegin
    · have hne : token.event ≠ .messageBegin := hbegin token.event (by simp [callbacks_cons hskip])
      have hcallback : side.callback token.event = none := by
        cases hevent : token.event <;>
          simp_all [ReceiveSide.callback, ReceiveSide.on_url, ReceiveSide.on_header_field,
            ReceiveSide.on_header_value, ReceiveSide.on_headers_complete, ReceiveSide.on_body,
            ReceiveSide.on_message_complete]
      simp only [httpParserScan, hcallback, true_and]
      refine .inr ?_
      cases hevent : token.event <;> simp_all [ParserEvent.errno]

end cpv
