import Cpv.Connection.Invariant

namespace cpv

/-- What the parser callbacks, a shutdown and the reset for the next request keep of the connection's state. -/
structure StateKept (P : Http11ServerConnectionState → Prop) : Prop where
  callback : ∀ ⦃side next : ReceiveSide⦄ ⦃event : ParserEvent⦄,
    side.callback event = some next → P side.state → P next.state
  closing : P .Closing
  reset : P .ReceiveRequestMessageComplete → P .Started

theorem stateKept_ne_Closed : StateKept (· ≠ .Closed) where
  callback side next event hcallback hstate := by
    cases event <;>
      simp only [ReceiveSide.callback, ReceiveSide.on_message_begin, ReceiveSide.on_url, ReceiveSide.on_header_field,
        ReceiveSide.on_header_value, ReceiveSide.on_headers_complete, ReceiveSide.on_body,
        ReceiveSide.on_message_complete] at hcallback <;>
      grind [ReceiveSide.storeHeader, ReceiveSide.storeRequestLine]
  closing := nofun
  reset _ := nofun

/-- A connection that is closing ignores the parser. -/
theorem stateKept_Closing : StateKept (· = .Closing) where
  callback side next event hcallback hstate := by
    cases event <;>
      simp only [ReceiveSide.callback, ReceiveSide.on_message_begin, ReceiveSide.on_url, ReceiveSide.on_header_field,
        ReceiveSide.on_header_value, ReceiveSide.on_headers_complete, ReceiveSide.on_body,
        ReceiveSide.on_message_complete, hstate] at hcallback <;>
      cases hcallback
    exact hstate
  closing := rfl
  reset := nofun

namespace Http11ServerConnection

/-- The parts of a connection that only the reply loop and its handler change. -/
def replyState (self : Http11ServerConnection) : List HandlerCall × ReplySide × ReplyPoint × Bool :=
  (self.calls, self.reply, self.replyPoint, self.idMismatch)

theorem shutdown_replyState (self : Http11ServerConnection) : self.shutdown.replyState = self.replyState := by
  obtain ⟨hcalls, hreply, hpoint, hmismatch⟩ := self.shutdown_frame
  simp only [replyState, hcalls, hreply, hpoint, hmismatch]

theorem shutdown_state (self : Http11ServerConnection) : self.shutdown.receive.state = .Closing := by
  unfold shutdown
  split
  · assumption
  · rfl

/-- What the receive loop leaves as it is: the calls of the first handler and their responses, queues that were
    aborted, and what callbacks keep of the connection's state. -/
def ReceiveFrame (self after : Http11ServerConnection) : Prop :=
  after.replyState = self.replyState ∧ (self.Aborted → after.Aborted) ∧
    ∀ P, StateKept P → P self.receive.state → P after.receive.state

namespace ReceiveFrame

variable {self mid after : Http11ServerConnection}

theorem refl (self : Http11ServerConnection) : ReceiveFrame self self :=
  ⟨rfl, id, fun _ _ => id⟩

theorem trans (hfirst : ReceiveFrame self mid) (hsecond : ReceiveFrame mid after) : ReceiveFrame self after :=
  ⟨hsecond.1.trans hfirst.1, fun haborted => hsecond.2.1 (hfirst.2.1 haborted),
    fun P hkept hstate => hsecond.2.2 P hkept (hfirst.2.2 P hkept hstate)⟩

theorem shutdown (self : Http11ServerConnection) : ReceiveFrame self self.shutdown :=
  ⟨self.shutdown_replyState, Aborted.shutdown, fun _ hkept _ => self.shutdown_state ▸ hkept.closing⟩

/-- A push that succeeds was not aborted. -/
theorem pushRequest {entry : RequestEntry} {requestQueue : BoundedQueue RequestEntry}
    (hpush : self.requestQueue.pushEventually entry = .ready requestQueue) :
    ReceiveFrame self { self with requestQueue } := by
  refine ⟨rfl, fun haborted => ?_, fun _ _ => id⟩
  rw [BoundedQueue.pushEventually_of_aborted haborted.1] at hpush
  cases hpush

theorem pushBodyEntry {entry : BodyEntry} {requestBodyQueue : BoundedQueue BodyEntry}
    (hpush : self.requestBodyQueue.pushEventually entry = .ready requestBodyQueue) :
    ReceiveFrame self { self with requestBodyQueue } := by
  refine ⟨rfl, fun haborted => ?_, fun _ _ => id⟩
  rw [BoundedQueue.pushEventually_of_aborted haborted.2] at hpush
  cases hpush

theorem executeParser (self : Http11ServerConnection) (buffer : List ParserToken) :
    ReceiveFrame self (self.executeParser buffer) := by
  have hparsed : ReceiveFrame self { self with
      receive := (http_parser_execute self.receive self.parserErrno buffer).side
      parserErrno := (http_parser_execute self.receive self.parserErrno buffer).errno } := by
    refine ⟨rfl, id, fun P hkept hstate => ?_⟩
    unfold http_parser_execute
    split
    · exact httpParserScan_preserves (P := fun side => P side.state)
        (fun _ _ _ hcallback => hkept.callback hcallback) 0 buffer hstate
    · exact hstate
  simp only [Http11ServerConnection.executeParser]
  split
  · exact hparsed
  · split
    · exact hparsed
    · exact hparsed.trans (shutdown _)

theorem receiveBuffer (self : Http11ServerConnection) (buffer : List ParserToken) :
    ReceiveFrame self (self.receiveBuffer buffer) := by
  simp only [Http11ServerConnection.receiveBuffer]
  split
  · exact shutdown _
  · split
    · exact executeParser _ buffer
    · split
      · exact shutdown _
      · split
        · exact shutdown _
        · exact executeParser _ buffer

theorem receiveRequestLoop (self : Http11ServerConnection) : ReceiveFrame self self.receiveRequestLoop := by
  simp only [Http11ServerConnection.receiveRequestLoop]
  split
  · exact refl self
  · split
    · rename_i hcomplete
      split <;> exact ⟨rfl, id, fun _ hkept hstate => hkept.reset (hcomplete ▸ hstate)⟩
    · split <;> exact refl self

theorem enqueueBodyBuffers (self : Http11ServerConnection) : ReceiveFrame self self.enqueueBodyBuffers := by
  simp only [Http11ServerConnection.enqueueBodyBuffers]
  split
  · exact refl self
  · simp only [pushBody]
    split
    · rename_i hpush
      exact pushBodyEntry hpush
    · exact refl self
    · exact refl self

theorem enqueueRequest (self : Http11ServerConnection) (hasBody : Bool) :
    ReceiveFrame self (self.enqueueRequestAndContinueReceiving hasBody) := by
  simp only [enqueueRequestAndContinueReceiving]
  split
  · split
    · rename_i hpush
      exact pushRequest hpush
    · exact refl self
    · exact refl self
  · exact refl self

end ReceiveFrame

variable {self after : Http11ServerConnection}

/-- What a step of the receive loop leaves as it is. -/
theorem receiveStep_frame (hstep : self.receiveStep = some after) : ReceiveFrame self after := by
  unfold receiveStep at hstep
  split at hstep
  · cases hstep
  · cases hstep
  · exact Option.some.inj hstep ▸ .receiveRequestLoop self
  · split at hstep
    · split at hstep <;> cases hstep
      exact .refl self
    · exact Option.some.inj hstep ▸ .refl self
  · exact Option.some.inj hstep ▸ .receiveBuffer self _
  · exact Option.some.inj hstep ▸ .enqueueBodyBuffers self
  · split at hstep <;> cases hstep
    · rename_i hpush
      exact .pushBodyEntry hpush
    · exact .refl self
  · exact Option.some.inj hstep ▸ .enqueueRequest self _
  · split at hstep <;> cases hstep
    · rename_i hpush
      exact .pushRequest hpush
    · exact .refl self
  · exact Option.some.inj hstep ▸ .shutdown self

/-- The receive loop leaves the calls of the first handler alone. -/
theorem receiveStep_replyState (hstep : self.receiveStep = some after) : after.replyState = self.replyState :=
  (receiveStep_frame hstep).1

/-- Once aborted, the receive loop cannot reopen the queues. -/
theorem Aborted.receiveStep (haborted : self.Aborted) (hstep : self.receiveStep = some after) : after.Aborted :=
  (receiveStep_frame hstep).2.1 haborted

/-- What decides whether the waiting buffers fit. -/
def bodyState (self : Http11ServerConnection) : ReceiveLoopData × Nat :=
  (self.receive.receiveLoopData, self.requestBodyQueue.maxSize)

theorem shutdown_bodyState (self : Http11ServerConnection) : self.shutdown.bodyState = self.bodyState := by
  unfold shutdown
  split <;> rfl

/-- What the reply loop and its handler leave as it is: the data of the receive loop, and the connection's state
    unless they close it. -/
def ReplyFrame (self after : Http11ServerConnection) : Prop :=
  after.bodyState = self.bodyState ∧
    (after.receive.state = self.receive.state ∨ after.receive.state = .Closing)

namespace ReplyFrame

theorem refl (self : Http11ServerConnection) : ReplyFrame self self := ⟨rfl, .inl rfl⟩

theorem shutdown (self : Http11ServerConnection) : ReplyFrame self self.shutdown :=
  ⟨self.shutdown_bodyState, .inr self.shutdown_state⟩

theorem popBodyEntry {entry : BodyEntry} {requestBodyQueue : BoundedQueue BodyEntry}
    (hpop : self.requestBodyQueue.popEventually = .ready (entry, requestBodyQueue)) :
    ReplyFrame self ({ self with requestBodyQueue }.handleBodyEntry entry) := by
  obtain ⟨-, -, hqueue⟩ := BoundedQueue.popEventually_eq_ready.mp hpop
  have hsize : requestBodyQueue.maxSize = self.requestBodyQueue.maxSize := by rw [hqueue]
  unfold handleBodyEntry
  split
  · exact ⟨congrArg (Prod.mk _) hsize, .inl rfl⟩
  · exact ⟨congrArg (Prod.mk _) hsize, .inl rfl⟩

end ReplyFrame

/-- What a step of the reply loop leaves as it is. -/
theorem replyStep_frame {result : SendResult} (hstep : self.replyStep result = some after) :
    ReplyFrame self after := by
  unfold replyStep at hstep
  split at hstep
  · cases hstep
  · cases hstep
  · cases hstep
  · simp only [replyResponseLoop, Option.some.injEq] at hstep
    split at hstep
    · split at hstep <;> exact hstep ▸ .refl self
    · split at hstep <;> exact hstep ▸ .refl self
  · split at hstep <;> cases hstep <;> exact .refl self
  · split at hstep
    · rename_i hpop
      exact Option.some.inj hstep ▸ .popBodyEntry hpop
    · exact Option.some.inj hstep ▸ .refl self
    · cases hstep
  · split at hstep
    · split at hstep <;> cases hstep <;> exact .refl self
    · split at hstep <;> cases hstep
      · exact .shutdown self
      · exact .refl self
  · exact Option.some.inj hstep ▸ .shutdown self

theorem handlerStep_frame {action : HandlerAction} (hstep : self.handlerStep action = some after) :
    ReplyFrame self after := by
  unfold handlerStep at hstep
  split at hstep
  · cases action with
    | read =>
      simp only [read, Option.some.injEq] at hstep
      split at hstep
      · exact hstep ▸ .refl self
      · split at hstep
        · rename_i hpop
          exact hstep ▸ .popBodyEntry hpop
        · exact hstep ▸ .refl self
        · exact hstep ▸ .refl self
    | _ => exact Option.some.inj hstep ▸ .refl self
  · cases hstep

end Http11ServerConnection

theorem StateKept.receiveStep {P : Http11ServerConnectionState → Prop} (hkept : StateKept P)
    {self after : Http11ServerConnection} (hstep : self.receiveStep = some after) (hstate : P self.receive.state) :
    P after.receive.state :=
  (Http11ServerConnection.receiveStep_frame hstep).2.2 P hkept hstate

end cpv
