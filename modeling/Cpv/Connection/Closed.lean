import Cpv.Connection.LoopFrames

namespace cpv

namespace Http11ServerConnection

variable {self after : Http11ServerConnection}

/-- The connection's state, once its loops have ended. -/
def isClosed (self : Http11ServerConnection) : Prop := self.receive.state = .Closed

theorem shutdown_not_closed (self : Http11ServerConnection) : ¬ self.shutdown.isClosed := by
  simp [isClosed, shutdown_state]

/-- Neither the reply loop nor its handler closes a connection. -/
theorem ReplyFrame.not_closed (hframe : ReplyFrame self after) (hopen : ¬ self.isClosed) : ¬ after.isClosed := by
  unfold isClosed at hopen ⊢
  obtain ⟨-, hsame | hclosing⟩ := hframe
  · rwa [hsame]
  · simp [hclosing]

/-- The loops of a closed connection have ended, and so has their continuation. -/
structure Ended (self : Http11ServerConnection) : Prop where
  receivePoint : self.receivePoint = .done
  replyPoint : self.replyPoint = .done
  finished : self.finished = true

/-- A connection is closed at its end only, and takes no step of its own then. -/
theorem step_ended {label : Label} (hlabel : label ≠ .shutdown) (hended : self.isClosed → self.Ended)
    (hstep : self.step label = some after) :
    ¬ self.isClosed ∧ (after.isClosed → label = .close ∧ after.Ended) := by
  have hopen : ¬ self.isClosed := by
    intro hclosed
    obtain ⟨hreceive, hreply, hfinished⟩ := hended hclosed
    cases label <;> simp_all [step, receiveStep, replyStep, handlerStep, close]
  refine ⟨hopen, fun hclosed => ?_⟩
  cases label with
  | receive => exact absurd hclosed (stateKept_ne_Closed.receiveStep hstep hopen)
  | reply result => exact absurd hclosed ((replyStep_frame hstep).not_closed hopen)
  | handler action => exact absurd hclosed ((handlerStep_frame hstep).not_closed hopen)
  | shutdown => exact absurd rfl hlabel
  | close =>
    simp only [step, close] at hstep
    split at hstep <;> cases hstep
    rename_i hreceive hreply hfinished
    exact ⟨rfl, hreceive, hreply, rfl⟩

end Http11ServerConnection

end cpv
