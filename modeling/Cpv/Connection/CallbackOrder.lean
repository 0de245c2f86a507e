import Cpv.Connection.Model
import Cpv.Connection.Stream

namespace cpv

/-- The state a callback leaves, which depends on nothing but the state before it. -/
def Http11ServerConnectionState.next (state : Http11ServerConnectionState) :
    ParserEvent → Option Http11ServerConnectionState
  | .skip => some state
  | .messageBegin => if state = .Started then some .ReceiveRequestMessageBegin else none
  | .url _ =>
    if state = .ReceiveRequestMessageBegin ∨ state = .ReceiveRequestUrl then some .ReceiveRequestUrl else none
  | .headerField _ =>
    if state = .ReceiveRequestHeaderValue ∨ state = .ReceiveRequestUrl ∨ state = .ReceiveRequestHeaderField then
      some .ReceiveRequestHeaderField
    else none
  | .headerValue _ =>
    if state = .ReceiveRequestHeaderField ∨ state = .ReceiveRequestHeaderValue then some .ReceiveRequestHeaderValue
    else none
  | .headersComplete .. =>
    if state = .ReceiveRequestHeaderValue ∨ state = .ReceiveRequestUrl then some .ReceiveRequestHeadersComplete
    else none
  | .body _ =>
    if state = .ReceiveRequestHeadersComplete ∨ state = .ReceiveRequestBody then some .ReceiveRequestBody else none
  | .messageComplete =>
    if state = .ReceiveRequestHeadersComplete ∨ state = .ReceiveRequestBody then some .ReceiveRequestMessageComplete
    else none
  | .error => none

namespace ReceiveSide

theorem callback_state (side : ReceiveSide) (event : ParserEvent) :
    (side.callback event).map (·.state) = side.state.next event := by
  obtain ⟨state, newRequest, receiveLoopData⟩ := side
  cases event <;> cases state <;> rfl

/-- The callbacks of some events, `none` where one of them returns an error. -/
def callAll (side : ReceiveSide) (events : List ParserEvent) : Option ReceiveSide :=
  events.foldlM callback side

/-- The callbacks of a request that is cut into buffers. Behind a buffer the receive loop moves the request and the
    body to the queues: whatever that leaves of the data, the state stays as it is. -/
def callBuffers (side : ReceiveSide) : List (List ParserEvent × HttpRequest × ReceiveLoopData) → Option ReceiveSide
  | [] => some side
  | (buffer, newRequest, receiveLoopData) :: buffers =>
    (side.callAll buffer).bind fun side => callBuffers { side with newRequest, receiveLoopData } buffers

theorem callAll_state (side : ReceiveSide) (events : List ParserEvent) :
    (side.callAll events).map (·.state) = events.foldlM Http11ServerConnectionState.next side.state := by
  induction events generalizing side with
  | nil => rfl
  | cons event events ih =>
    rw [callAll, List.foldlM_cons, List.foldlM_cons, ← callback_state]
    cases side.callback event with
    | none => rfl
    | some next => exact ih next

theorem callBuffers_state (side : ReceiveSide)
    (buffers : List (List ParserEvent × HttpRequest × ReceiveLoopData)) :
    (side.callBuffers buffers).map (·.state) =
      (buffers.map Prod.fst).flatten.foldlM Http11ServerConnectionState.next side.state := by
  induction buffers generalizing side with
  | nil => rfl
  | cons buffer buffers ih =>
    obtain ⟨events, newRequest, receiveLoopData⟩ := buffer
    rw [callBuffers, List.map_cons, List.flatten_cons, List.foldlM_append, ← callAll_state]
    cases side.callAll events with
    | none => rfl
    | some next => exact ih { next with newRequest, receiveLoopData }

end ReceiveSide

/-- What the receive loop does with a buffer before and behind the parser leaves the state alone. -/
theorem Http11ServerConnection.receive_state_between (self : Http11ServerConnection) (buffer : List ParserToken)
    (hasBody : Bool) :
    (self.countInitialRequest buffer).receive.state = self.receive.state ∧
      self.enqueueBodyBuffers.receive.state = self.receive.state ∧
      (self.enqueueRequestAndContinueReceiving hasBody).receive.state = self.receive.state := by
  refine ⟨rfl, ?_, ?_⟩
  · unfold enqueueBodyBuffers pushBody
    grind
  · unfold enqueueRequestAndContinueReceiving
    grind

/-- The states in which a stage of a message can be reached. -/
def Stage.Reached : Stage → Http11ServerConnectionState → Prop
  | .begun, state => state = .ReceiveRequestMessageBegin
  | .url _, state => state = .ReceiveRequestUrl
  | .field .., state => state = .ReceiveRequestHeaderField
  | .value .., state => state = .ReceiveRequestHeaderValue
  | .headers _, state => state = .ReceiveRequestUrl ∨ state = .ReceiveRequestHeaderValue
  | .body _, state => state = .ReceiveRequestHeadersComplete ∨ state = .ReceiveRequestBody
  | .complete, state => state = .ReceiveRequestMessageComplete

/-- No header field or value is reported behind the end of the headers. -/
def NoTrailers (events : List ParserEvent) : Prop :=
  ∀ before method http_major http_minor after,
    events = before ++ ParserEvent.headersComplete method http_major http_minor :: after → ∀ event ∈ after, ¬ event.isHeader

theorem noTrailers_cons (event : ParserEvent) {events : List ParserEvent}
    (hne : ∀ method http_major http_minor, event ≠ .headersComplete method http_major http_minor) :
    NoTrailers (event :: events) ↔ NoTrailers events := by
  constructor
  · intro hnone before method http_major http_minor after heq
    exact hnone (event :: before) method http_major http_minor after (by rw [heq, List.cons_append])
  · intro hnone before method http_major http_minor after heq
    cases before with
    | nil => exact absurd (List.cons.inj heq).1 (hne method http_major http_minor)
    | cons first before => exact hnone before method http_major http_minor after (List.cons.inj heq).2

theorem noTrailers_headersComplete (method : SharedString) (http_major http_minor : Nat) (events : List ParserEvent) :
    NoTrailers (.headersComplete method http_major http_minor :: events) ↔ ∀ event ∈ events, ¬ event.isHeader := by
  constructor
  · intro hnone
    exact hnone [] method http_major http_minor events rfl
  · intro hnone before _ _ _ after heq event hevent
    refine hnone event ?_
    cases before with
    | nil => exact (List.cons.inj heq).2 ▸ hevent
    | cons first before =>
      rw [(List.cons.inj heq).2]
      exact List.mem_append_right _ (List.mem_cons_of_mem _ hevent)

variable {wire : WireRequest} {stage : Stage} {events : List ParserEvent} {state : Http11ServerConnectionState}

theorem foldlM_next_cons {next : Http11ServerConnectionState} {event : ParserEvent} (hnext : state.next event = some next)
    (events : List ParserEvent) :
    (event :: events).foldlM Http11ServerConnectionState.next state =
      events.foldlM Http11ServerConnectionState.next next := by
  rw [List.foldlM_cons, hnext]
  rfl

/-- In the body every callback is accepted but those of trailers. -/
theorem Remaining.body_accepted_iff (hremaining : Remaining wire stage events) (hreached : stage.Reached state)
    {rest : SharedString} (hstage : stage = .body rest) :
    events.foldlM Http11ServerConnectionState.next state = some .ReceiveRequestMessageComplete ↔
      ∀ event ∈ events, ¬ event.isHeader := by
  induction hremaining generalizing rest state with
  | @body data rest events tail ih =>
    have hnext : state.next (.body data) = some .ReceiveRequestBody := if_pos hreached
    rw [foldlM_next_cons hnext, List.forall_mem_cons, ih (.inr rfl) rfl]
    simp [ParserEvent.isHeader]
  | @bodyEnd trailers htrailers =>
    cases trailers with
    | nil =>
      have hnext : state.next .messageComplete = some .ReceiveRequestMessageComplete := if_pos hreached
      refine iff_of_true (foldlM_next_cons hnext []) ?_
      simp [ParserEvent.isHeader]
    | cons trailer trailers =>
      have htrailer := htrailers trailer List.mem_cons_self
      refine iff_of_false ?_ fun hnone => hnone trailer List.mem_cons_self htrailer
      have hnext : state.next trailer = none := by
        cases trailer <;> simp only [ParserEvent.isHeader] at htrailer
        all_goals
          rcases hreached with rfl | rfl <;> rfl
      rw [List.cons_append, List.foldlM_cons, hnext]
      simp
  | _ => cases hstage

/-- A message is accepted to its end exactly without trailers. -/
theorem Remaining.accepted_iff (hremaining : Remaining wire stage events) (hreached : stage.Reached state)
    (hstage : ∀ rest, stage ≠ .body rest) :
    events.foldlM Http11ServerConnectionState.next state = some .ReceiveRequestMessageComplete ↔
      NoTrailers events := by
  induction hremaining generalizing state with
  | @begun data rest events hurl tail ih =>
    have hnext : state.next (.url data) = some .ReceiveRequestUrl := if_pos (.inl hreached)
    rw [foldlM_next_cons hnext, noTrailers_cons (.url data) nofun]
    exact ih rfl nofun
  | @url data rest events tail ih =>
    have hnext : state.next (.url data) = some .ReceiveRequestUrl := if_pos (.inr hreached)
    rw [foldlM_next_cons hnext, noTrailers_cons (.url data) nofun]
    exact ih rfl nofun
  | urlEnd tail ih => exact ih (.inl hreached) nofun
  | @header data rest value headers events tail ih =>
    have hnext : state.next (.headerField data) = some .ReceiveRequestHeaderField :=
      if_pos (hreached.symm.imp_right .inl)
    rw [foldlM_next_cons hnext, noTrailers_cons (.headerField data) nofun]
    exact ih rfl nofun
  | @field data rest value headers events tail ih =>
    have hnext : state.next (.headerField data) = some .ReceiveRequestHeaderField := if_pos (.inr (.inr hreached))
    rw [foldlM_next_cons hnext, noTrailers_cons (.headerField data) nofun]
    exact ih rfl nofun
  | @fieldEnd data rest headers events tail ih =>
    have hnext : state.next (.headerValue data) = some .ReceiveRequestHeaderValue := if_pos (.inl hreached)
    rw [foldlM_next_cons hnext, noTrailers_cons (.headerValue data) nofun]
    exact ih rfl nofun
  | @value data rest headers events tail ih =>
    have hnext : state.next (.headerValue data) = some .ReceiveRequestHeaderValue := if_pos (.inr hreached)
    rw [foldlM_next_cons hnext, noTrailers_cons (.headerValue data) nofun]
    exact ih rfl nofun
  | valueEnd tail ih => exact ih (.inr hreached) nofun
  | headersEnd tail =>
    have hnext : state.next (.headersComplete wire.method wire.http_major wire.http_minor) =
        some .ReceiveRequestHeadersComplete := if_pos hreached.symm
    rw [foldlM_next_cons hnext, noTrailers_headersComplete]
    exact tail.body_accepted_iff (.inl rfl) rfl
  | body | bodyEnd => exact absurd rfl (hstage _)
  | complete =>
    rw [hreached]
    refine iff_of_true rfl fun before _ _ _ after heq => ?_
    cases before <;> cases heq

/-- The callbacks accept a request, in whatever buffers it arrives, exactly if no trailers follow its body. -/
theorem callBuffers_accepted_iff (wire : WireRequest) (buffers : List (List ParserEvent × HttpRequest × ReceiveLoopData))
    (events : List ParserEvent) (hremaining : Remaining wire .begun events)
    (hbuffers : (buffers.map Prod.fst).flatten = .messageBegin :: events) (side : ReceiveSide)
    (hstate : side.state = .Started) :
    (∃ final, side.callBuffers buffers = some final ∧ final.state = .ReceiveRequestMessageComplete) ↔
      NoTrailers events := by
  have hrun := side.callBuffers_state buffers
  have hnext : Http11ServerConnectionState.next .Started .messageBegin = some .ReceiveRequestMessageBegin := rfl
  rw [hbuffers, hstate, foldlM_next_cons hnext] at hrun
  rw [← hremaining.accepted_iff rfl nofun, ← hrun, Option.map_eq_some_iff]

/-- The callbacks of a request of which every part arrives in one piece. -/
def WireRequest.wholeEvents (wire : WireRequest) (trailers : List ParserEvent) : List ParserEvent :=
  .url wire.url :: ((wire.headers.flatMap fun header => [.headerField header.1, .headerValue header.2]) ++
    .headersComplete wire.method wire.http_major wire.http_minor ::
    ((if wire.body = [] then [] else [.body wire.body]) ++ (trailers ++ [ParserEvent.messageComplete])))

theorem Remaining.wholeHeaders {tail : List ParserEvent} (htail : Remaining wire (.headers []) tail)
    (headers : List (SharedString × SharedString)) :
    Remaining wire (.headers headers)
      ((headers.flatMap fun header => [.headerField header.1, .headerValue header.2]) ++ tail) := by
  induction headers with
  | nil => exact htail
  | cons header headers ih =>
    obtain ⟨key, value⟩ := header
    have hvalue := @Remaining.fieldEnd wire value [] headers _ (.valueEnd ih)
    have hfield := @Remaining.header wire key [] (value ++ []) headers _ hvalue
    rw [List.append_nil, List.append_nil] at hfield
    exact hfield

theorem WireRequest.remaining_wholeEvents (wire : WireRequest) {trailers : List ParserEvent}
    (htrailers : ∀ event ∈ trailers, event.isHeader) : Remaining wire .begun (wire.wholeEvents trailers) := by
  have hbody : Remaining wire (.body wire.body)
      ((if wire.body = [] then [] else [.body wire.body]) ++ (trailers ++ [ParserEvent.messageComplete])) := by
    have hend := @Remaining.bodyEnd wire trailers htrailers
    split
    · rename_i hempty
      rw [hempty]
      exact hend
    · have hwhole := @Remaining.body wire wire.body [] _ hend
      rw [List.append_nil] at hwhole
      exact hwhole
  exact .begun (List.append_nil _).symm (.urlEnd (Remaining.wholeHeaders (.headersEnd hbody) wire.headers))

/-- A POST request with a chunked body. -/
def chunkedRequest : WireRequest where
  method := text "POST"
  http_major := 1
  http_minor := 1
  url := text "/"
  headers := [(text "Transfer-Encoding", text "chunked")]
  body := text "abc"

/-- The condition for the request in one buffer and without trailers. -/
theorem callBuffers_accepted_iff_chunked :
    (∃ final, ({ state := .Started } : ReceiveSide).callBuffers
        [(.messageBegin :: chunkedRequest.wholeEvents [], {}, {})] = some final ∧
      final.state = .ReceiveRequestMessageComplete) ↔ NoTrailers (chunkedRequest.wholeEvents []) :=
  callBuffers_accepted_iff chunkedRequest [(.messageBegin :: chunkedRequest.wholeEvents [], {}, {})]
    (chunkedRequest.wholeEvents []) (chunkedRequest.remaining_wholeEvents (by simp)) (by simp) { state := .Started } rfl

/-- The trailer of a chunked body is refused. -/
theorem not_callBuffers_accepted_trailer :
    Remaining chunkedRequest .begun
        (chunkedRequest.wholeEvents [.headerField (text "Expires"), .headerValue (text "0")]) ∧
      ({ state := .Started } : ReceiveSide).callBuffers
        [(.messageBegin :: chunkedRequest.wholeEvents [.headerField (text "Expires"), .headerValue (text "0")],
          {}, {})] = none := by
  refine ⟨chunkedRequest.remaining_wholeEvents ?_, rfl⟩
  simp [ParserEvent.isHeader]

end cpv
