import Cpv.Connection.Pipelining

namespace cpv

def ParserEvent.bodyPieces : ParserEvent → Nat
  | .body _ => 1
  | _ => 0

/-- The number of body pieces a buffer adds to the message it continues. -/
def bodyPieces : List ParserToken → Nat
  | [] => 0
  | token :: tokens =>
    match token.event with
    | .messageComplete => 0
    | event => event.bodyPieces + bodyPieces tokens

private theorem httpParserScan_of_complete {side : ReceiveSide} (parsedSize : Nat) (tokens : List ParserToken)
    (hstate : side.state = .ReceiveRequestMessageComplete) :
    (httpParserScan side parsedSize tokens).side = side := by
  induction tokens generalizing parsedSize with
  | nil => rfl
  | cons token tokens ih =>
    rw [httpParserScan]
    cases hcallback : side.callback token.event with
    | none => rfl
    | some next =>
      have hnext : next = side := by
        cases hevent : token.event <;>
          simp [hevent, ReceiveSide.callback, ReceiveSide.on_message_begin, ReceiveSide.on_url,
            ReceiveSide.on_header_field, ReceiveSide.on_header_value, ReceiveSide.on_headers_complete,
            ReceiveSide.on_body, ReceiveSide.on_message_complete, hstate] at hcallback
        exact hcallback.symm
      rw [hnext]
      exact ih (parsedSize + token.bytes)

/-- Only a body callback adds a body buffer while the request is not enqueued. -/
theorem ReceiveSide.callback_bodyBuffers {side next : ReceiveSide} {event : ParserEvent}
    (hcallback : side.callback event = some next) (hnot : side.receiveLoopData.requestEnqueued = false) :
    next.receiveLoopData.bodyBuffers.length =
      side.receiveLoopData.bodyBuffers.length + event.bodyPieces := by
  cases event with
  | skip =>
    obtain rfl : side = next := by simpa [callback] using hcallback
    rfl
  | error => simp [callback] at hcallback
  | body data =>
    simp only [callback, on_body] at hcallback
    split at hcallback <;> cases hcallback <;> simp [ParserEvent.bodyPieces]
  | messageComplete =>
    simp only [callback, on_message_complete, hnot] at hcallback
    split at hcallback <;> cases hcallback <;> simp [ParserEvent.bodyPieces]
  | _ =>
    simp only [callback, on_message_begin, on_url, on_header_field, on_header_value,
      on_headers_complete] at hcallback
    split at hcallback <;> cases hcallback <;> rfl

/-- A scan queues at most the body pieces of its buffer while the request is not
    enqueued. -/
theorem httpParserScan_bodyBuffers {side : ReceiveSide} (parsedSize : Nat) (tokens : List ParserToken)
    (hnot : side.receiveLoopData.requestEnqueued = false) :
    (httpParserScan side parsedSize tokens).side.receiveLoopData.bodyBuffers.length ≤
      side.receiveLoopData.bodyBuffers.length + bodyPieces tokens := by
  induction tokens generalizing side parsedSize with
  | nil => simp [httpParserScan]
  | cons token tokens ih =>
    rw [httpParserScan]
    cases hcallback : side.callback token.event with
    | none => simp
    | some next =>
      have hlength := ReceiveSide.callback_bodyBuffers hcallback hnot
      have henqueued := (ReceiveSide.callback_frame hcallback).2.2.1.trans hnot
      have hrest := ih (parsedSize + token.bytes) henqueued
      cases hevent : token.event with
      | messageComplete =>
        have hstate : next.state = .ReceiveRequestMessageComplete := by
          rw [hevent, ReceiveSide.callback, ReceiveSide.on_message_complete] at hcallback
          split at hcallback <;> cases hcallback <;> rfl
        rw [hevent] at hlength
        simp only [httpParserScan_of_complete _ tokens hstate]
        exact hlength ▸ Nat.le_add_right _ _
      | _ =>
        rw [hevent] at hlength
        simp only [bodyPieces, hevent]
        omega

namespace Http11ServerConnection

/-- The receive loop waits for room for a body chunk of a request that is not in
    the request queue yet, and the reply loop waits for a request. -/
def Deadlocked (self : Http11ServerConnection) : Prop :=
  (∃ entry, self.receivePoint = .pushingBody entry ∧ self.requestBodyQueue.pushEventually entry = .pending) ∧
    self.receive.receiveLoopData.requestEnqueued = false ∧ self.requestQueue.items = [] ∧
    self.replyPoint = .popping

/-- The buffer that a step parses. -/
def parsedBuffer (self : Http11ServerConnection) : Label → Option (List ParserToken)
  | .receive => match self.receivePoint with
    | .received buffer => some buffer
    | _ => none
  | _ => none

/-- When a buffer is parsed before the request is enqueued, the body pieces in
    it fit into the body queue. -/
def BodyFits (self : Http11ServerConnection) (label : Label) : Prop :=
  ∀ buffer ∈ self.parsedBuffer label, self.receive.receiveLoopData.requestEnqueued = false →
    bodyPieces buffer ≤ self.requestBodyQueue.maxSize

instance (self : Http11ServerConnection) (label : Label) : Decidable (self.BodyFits label) :=
  inferInstanceAs (Decidable (∀ buffer ∈ self.parsedBuffer label,
    self.receive.receiveLoopData.requestEnqueued = false → bodyPieces buffer ≤ self.requestBodyQueue.maxSize))

/-- The body buffers that wait before their request all fit into the body queue. -/
def BuffersFit (self : Http11ServerConnection) : Prop :=
  self.receive.receiveLoopData.requestEnqueued = false →
    self.receive.receiveLoopData.bodyBuffers.length ≤ self.requestBodyQueue.maxSize

variable {requests : List WireRequest} {self after : Http11ServerConnection} {current : Nat} {ledger : Ledger}

/-- A connection whose waiting buffers fit into the body queue is not deadlocked:
    the queue only holds some of these buffers. -/
theorem Alive.not_deadlocked (halive : Alive requests self current ledger) (hfit : self.BuffersFit) :
    ¬self.Deadlocked := by
  rintro ⟨⟨entry, hpoint, hpending⟩, hnot, hnil, hpopping⟩
  obtain ⟨hreceiving, hqueued, hreplying⟩ := halive
  have hvalid := hreceiving.point
  simp only [ReceivePointValid, hpoint] at hvalid
  obtain ⟨-, -, hindex, hlength, -⟩ := hvalid
  have hcount := hqueued.enqueued
  simp only [hnil, List.length_nil, enqueuedCount, hpoint, hnot] at hcount
  have hbefore : ∀ lane < current, ledger.queued lane = [] := by
    intro lane hlane
    have hend := hqueued.ends lane (by omega)
    cases hbody : ledger.hasBody lane with
    | false =>
      rw [hbody] at hend
      exact hend.2
    | true =>
      obtain ⟨hprocessing | hfailed, -⟩ := hreplying.handled lane (by simp at hcount; omega) hbody
      · simp [processing, hpopping] at hprocessing
      · simp [hpopping] at hfailed
  have hitems : self.requestBodyQueue.items = ledger.queued current := by
    rw [hqueued.bodyEntries, lanes_succ, lanes_eq_nil hbefore, List.nil_append]
  have hroom : self.requestBodyQueue.items.length < self.requestBodyQueue.maxSize := by
    have := hlength hnot
    have := hfit hnot
    rw [hitems]
    omega
  simp [BoundedQueue.pushEventually, hqueued.requestBodyQueue_open, BoundedQueue.full,
    Nat.not_le.mpr hroom] at hpending

theorem Aborted.not_deadlocked (haborted : self.Aborted) : ¬self.Deadlocked := by
  rintro ⟨⟨entry, -, hpending⟩, -⟩
  rw [BoundedQueue.pushEventually_of_aborted haborted.2] at hpending
  cases hpending

theorem BuffersFit.of_bodyState (hfit : self.BuffersFit) (hstate : after.bodyState = self.bodyState) :
    after.BuffersFit := by
  obtain ⟨hdata, hsize⟩ := Prod.mk.inj hstate
  rw [BuffersFit, hdata, hsize]
  exact hfit

theorem refuse_bodyState (self : Http11ServerConnection) (errorResponse : SharedString) :
    (self.refuse errorResponse).bodyState = self.bodyState :=
  shutdown_bodyState { self with lastErrorResponse := errorResponse }

/-- Parsing a buffer whose body pieces fit leaves buffers that fit. -/
theorem executeParser_buffersFit {buffer : List ParserToken}
    (hbuffers : self.receive.receiveLoopData.bodyBuffers = [])
    (hpieces : self.receive.receiveLoopData.requestEnqueued = false →
      bodyPieces buffer ≤ self.requestBodyQueue.maxSize) : (self.executeParser buffer).BuffersFit := by
  have hparsed : ∀ side : ReceiveSide,
      side = (http_parser_execute self.receive self.parserErrno buffer).side →
        side.receiveLoopData.requestEnqueued = false →
          side.receiveLoopData.bodyBuffers.length ≤ self.requestBodyQueue.maxSize := by
    rintro side rfl hnot
    unfold http_parser_execute at hnot ⊢
    split at hnot
    · have henqueued := httpParserScan_preserves
        (P := fun next => next.receiveLoopData.requestEnqueued = self.receive.receiveLoopData.requestEnqueued)
        (fun side event next hcallback hside => (ReceiveSide.callback_frame hcallback).2.2.1.trans hside)
        0 buffer rfl
      have hlength := httpParserScan_bodyBuffers 0 buffer (henqueued.symm.trans hnot)
      rw [if_pos ‹_›]
      rw [hbuffers, List.length_nil, Nat.zero_add] at hlength
      exact hlength.trans (hpieces (henqueued.symm.trans hnot))
    · rw [if_neg ‹_›]
      simp [hbuffers]
  simp only [executeParser]
  split
  · exact hparsed _ rfl
  · split
    · exact hparsed _ rfl
    · apply BuffersFit.of_bodyState _ (refuse_bodyState _ _)
      exact hparsed _ rfl

/-- A step of the receive loop that meets the condition leaves buffers that fit. -/
theorem Alive.receiveStep_buffersFit (halive : Alive requests self current ledger) (hfit : self.BuffersFit)
    (hok : self.BodyFits .receive) (hstep : self.receiveStep = some after) : after.BuffersFit := by
  have hvalid := halive.receiving.point
  unfold Http11ServerConnection.receiveStep at hstep
  cases hpoint : self.receivePoint with
  | idle => simp [hpoint] at hstep
  | done => simp [hpoint] at hstep
  | failed => simp [ReceivePointValid, hpoint] at hvalid
  | loop =>
    simp only [hpoint, Http11ServerConnection.receiveRequestLoop, halive.state_ne, if_false, Option.some.injEq] at hstep
    split at hstep <;> split at hstep <;> subst hstep
    · simp [BuffersFit]
    · simp [BuffersFit]
    · exact hfit
    · exact hfit
  | reading =>
    simp only [hpoint] at hstep
    split at hstep
    · split at hstep <;> cases hstep
      exact hfit
    · cases hstep
      exact hfit
  | received buffer =>
    simp only [hpoint, Option.some.injEq] at hstep
    simp only [ReceivePointValid, hpoint, BuffersPassed] at hvalid
    have hok := hok buffer (by simp [parsedBuffer, hpoint])
    subst hstep
    simp only [Http11ServerConnection.receiveBuffer]
    split
    · exact hfit.of_bodyState (shutdown_bodyState _)
    · split
      · exact executeParser_buffersFit hvalid.2.1.1 hok
      · split
        · apply BuffersFit.of_bodyState _ (refuse_bodyState _ _)
          exact hfit
        · split
          · apply BuffersFit.of_bodyState _ (refuse_bodyState _ _)
            exact hfit
          · exact executeParser_buffersFit hvalid.2.1.1 hok
  | enqueueBody =>
    simp only [hpoint, Http11ServerConnection.enqueueBodyBuffers, Option.some.injEq] at hstep
    split at hstep <;> subst hstep
    · simp [BuffersFit]
    · simp only [pushBody]
      split
      · rename_i hpush
        obtain ⟨-, -, rfl⟩ := BoundedQueue.pushEventually_eq_ready.mp hpush
        exact hfit
      · exact hfit
      · exact hfit
  | pushingBody entry =>
    simp only [hpoint] at hstep
    split at hstep <;> cases hstep
    · rename_i hpush
      obtain ⟨-, -, rfl⟩ := BoundedQueue.pushEventually_eq_ready.mp hpush
      exact hfit
    · exact hfit
  | enqueueRequest hasBody =>
    simp only [hpoint, enqueueRequestAndContinueReceiving, Option.some.injEq] at hstep
    split at hstep
    · split at hstep <;> subst hstep <;> simp [BuffersFit]
    · exact hstep ▸ hfit
  | pushingRequest entry =>
    simp only [hpoint] at hstep
    split at hstep <;> cases hstep <;> exact hfit

/-- One step that meets the condition keeps the invariant and buffers that fit. -/
theorem step_buffersFit {label : Label} (hok : self.BodyFits label) (hstep : self.step label = some after)
    (hbefore : Invariant requests self ∧ (self.Aborted ∨ self.BuffersFit)) :
    Invariant requests after ∧ (after.Aborted ∨ after.BuffersFit) := by
  obtain ⟨hinvariant, hfit⟩ := hbefore
  refine ⟨hinvariant.step hstep, ?_⟩
  obtain haborted | hfit := hfit
  · exact .inl (haborted.step_spec hinvariant.1 hstep).2
  · obtain ⟨hsettled, haborted | ⟨current, ledger, halive⟩⟩ := hinvariant
    · exact .inl (haborted.step_spec hsettled hstep).2
    · right
      cases label with
      | receive => exact halive.receiveStep_buffersFit hfit hok hstep
      | reply result => exact hfit.of_bodyState (replyStep_frame hstep).1
      | handler action => exact hfit.of_bodyState (handlerStep_frame hstep).1
      | shutdown => exact Option.some.inj hstep ▸ hfit.of_bodyState self.shutdown_bodyState
      | close =>
        simp only [step, close] at hstep
        split at hstep <;> cases hstep
        exact hfit

/-- Over any run in which the body pieces parsed before their request is enqueued
    fit into the body queue, the two loops never wait for each other. -/
theorem run_not_deadlocked {configuration : HttpServerConfiguration} {socketIn : List (List ParserToken)}
    {started final : Http11ServerConnection} {labels : List Label} (hcarries : Carries requests socketIn)
    (hstart : (new configuration socketIn).start = some started)
    (hconforms : Machine.Conforms step BodyFits started labels)
    (hrun : Machine.run step started labels = some final) : ¬final.Deadlocked := by
  have hstarted : started.BuffersFit := by
    simp only [start, new, if_true, Option.some.injEq] at hstart
    subst hstart
    simp [BuffersFit]
  obtain ⟨⟨-, haborted | ⟨current, ledger, halive⟩⟩, haborted' | hfit⟩ :=
    Machine.run_preserves_of_conforms
      (P := fun self => Invariant requests self ∧ (self.Aborted ∨ self.BuffersFit))
      (fun _ _ _ hok hstep => step_buffersFit hok hstep) hconforms hrun
      ⟨start_invariant hcarries hstart, .inr hstarted⟩
  · exact haborted.not_deadlocked
  · exact haborted.not_deadlocked
  · exact haborted'.not_deadlocked
  · exact halive.not_deadlocked hfit

/-- The settings of a server that queues one body chunk at a time. -/
def oneChunk : HttpServerConfiguration := { requestBodyQueueSize := 1 }

def chunkedStarted : Http11ServerConnection := (new oneChunk [chunkedPostTokens]).start.getD (new {} [])

def chunkedDeadlock : Http11ServerConnection :=
  (Machine.run step chunkedStarted (List.replicate 5 Label.receive ++ [Label.reply .sent])).getD chunkedStarted

theorem chunkedPost_carries : Carries [chunkedPost] [chunkedPostTokens] := by
  refine ⟨⟨_, .cons chunkedPost_remaining .nil, [], rfl⟩, ?_⟩
  intro token htoken method http_major http_minor hevent
  have hbytes : ∀ other ∈ chunkedPostTokens, 0 < other.bytes := by simp [chunkedPostTokens]
  exact hbytes token (by simpa using htoken)

/-- Two chunks in the buffer that completes the headers, and room for one. -/
theorem deadlocked_chunkedPost : ¬∀ (requests : List WireRequest) (configuration : HttpServerConfiguration)
    (socketIn : List (List ParserToken)) (started final : Http11ServerConnection) (labels : List Label),
    1 ≤ configuration.requestQueueSize → 1 ≤ configuration.requestBodyQueueSize →
    Carries requests socketIn → (new configuration socketIn).start = some started →
    Machine.run step started labels = some final → ¬final.Deadlocked := by
  intro hclaim
  have hrun : Machine.run step chunkedStarted (List.replicate 5 Label.receive ++ [Label.reply .sent]) =
      some chunkedDeadlock := rfl
  refine hclaim [chunkedPost] oneChunk [chunkedPostTokens] chunkedStarted chunkedDeadlock _
    (by decide) (by decide) chunkedPost_carries rfl hrun ?_
  exact ⟨⟨{ buffer := text "cd", id := 0, isEnd := true }, rfl, rfl⟩, rfl, rfl, rfl⟩

def roomyStarted : Http11ServerConnection := (new {} [chunkedPostTokens]).start.getD (new {} [])

def roomyFinal : Http11ServerConnection :=
  (Machine.run step roomyStarted (List.replicate 5 Label.receive ++ [Label.reply .sent])).getD roomyStarted

/-- The same chunks meet the condition where the queue has room for both. -/
theorem run_not_deadlocked_chunkedPost : ¬roomyFinal.Deadlocked := by
  have hrun : Machine.run step roomyStarted (List.replicate 5 Label.receive ++ [Label.reply .sent]) =
      some roomyFinal := rfl
  exact run_not_deadlocked chunkedPost_carries rfl (by decide) hrun

end Http11ServerConnection

end cpv
