import Cpv.Connection.LoopFrames
import Cpv.Connection.ReceiveLoop
import Cpv.Connection.ReplyLoop

namespace cpv.Http11ServerConnection

variable {requests : List WireRequest} {self after : Http11ServerConnection} {current : Nat} {ledger : Ledger}

theorem Settled.of_replyState (hsettled : Settled requests self) (hstate : after.replyState = self.replyState) :
    Settled requests after := by
  simp only [replyState, Prod.mk.injEq] at hstate
  obtain ⟨hcalls, hreply, hpoint, hmismatch⟩ := hstate
  exact hsettled.of_frame hcalls hpoint (by rw [hreply]) hmismatch

/-- Once aborted, the reply loop cannot start another call. -/
theorem Aborted.replyStep {result : SendResult} (hsettled : Settled requests self) (haborted : self.Aborted)
    (hstep : self.replyStep result = some after) : Settled requests after ∧ after.Aborted := by
  obtain ⟨hshutCalls, -, -, hshutMismatch⟩ := self.shutdown_frame
  unfold Http11ServerConnection.replyStep at hstep
  split at hstep
  · cases hstep
  · cases hstep
  · cases hstep
  · simp only [replyResponseLoop, BoundedQueue.popEventually_of_aborted haborted.1, Option.some.injEq] at hstep
    split at hstep
    · split at hstep <;>
        exact hstep ▸ ⟨hsettled.of_not_processing rfl (by simp [processing]) rfl, haborted⟩
    · exact hstep ▸ ⟨hsettled.of_not_processing rfl (by simp [processing]) rfl, haborted⟩
  · rw [BoundedQueue.popEventually_of_aborted haborted.1] at hstep
    exact Option.some.inj hstep ▸ ⟨hsettled.of_not_processing rfl (by simp [processing]) rfl, haborted⟩
  · rename_i hpoint
    rw [BoundedQueue.popEventually_of_aborted haborted.2] at hstep
    have hprocessing : self.processing := .inr (.inl hpoint)
    exact Option.some.inj hstep ▸
      ⟨hsettled.of_processing hprocessing rfl rfl (by simp) (by simp) rfl, haborted⟩
  · split at hstep
    · split at hstep <;> cases hstep <;>
        exact ⟨hsettled.of_not_processing rfl (by simp [processing]) rfl, haborted⟩
    · split at hstep <;> cases hstep
      · exact ⟨hsettled.of_not_processing hshutCalls (by simp [processing]) hshutMismatch, haborted.shutdown⟩
      · exact ⟨hsettled.of_not_processing rfl (by simp [processing]) rfl, haborted⟩
  · exact Option.some.inj hstep ▸
      ⟨hsettled.of_not_processing hshutCalls (by simp [processing]) hshutMismatch, haborted.shutdown⟩

/-- Once aborted, the running handler reads nothing but the end of a body it
    already consumed. -/
theorem Aborted.handlerStep {action : HandlerAction} (hsettled : Settled requests self)
    (haborted : self.Aborted) (hstep : self.handlerStep action = some after) :
    Settled requests after ∧ after.Aborted := by
  unfold Http11ServerConnection.handlerStep at hstep
  split at hstep
  · rename_i hpoint
    have hprocessing : self.processing := .inl hpoint
    cases action with
    | read =>
      simp only [read, BoundedQueue.popEventually_of_aborted haborted.2, Option.some.injEq] at hstep
      split at hstep
      · rename_i hconsumed
        exact hstep ▸ ⟨hsettled.readResult hprocessing hconsumed, haborted⟩
      · exact hstep ▸ ⟨hsettled.of_processing hprocessing rfl rfl (by simp) (by simp) rfl, haborted⟩
    | modify change =>
      exact Option.some.inj hstep ▸ ⟨hsettled.of_frame rfl rfl rfl rfl, haborted⟩
    | write data now =>
      exact Option.some.inj hstep ▸ ⟨hsettled.of_processing hprocessing rfl
        (write_frame self.reply data now).2 (by simp [hpoint]) (by simp [hpoint]) rfl, haborted⟩
    | finish now =>
      exact Option.some.inj hstep ▸ ⟨hsettled.of_processing hprocessing rfl
        (finishResponse_frame self.reply now).2 (fun _ => finishResponse_keepConnection) (by simp) rfl,
        haborted⟩
    | throw =>
      exact Option.some.inj hstep ▸ ⟨hsettled.of_not_processing rfl (by simp [processing]) rfl, haborted⟩
  · cases hstep

/-- Once aborted, a connection stays aborted and its calls get nothing more. -/
theorem Aborted.step_spec {label : Label} (hsettled : Settled requests self) (haborted : self.Aborted)
    (hstep : self.step label = some after) : Settled requests after ∧ after.Aborted := by
  cases label with
  | receive => exact ⟨hsettled.of_replyState (receiveStep_replyState hstep), haborted.receiveStep hstep⟩
  | reply result => exact haborted.replyStep hsettled hstep
  | handler action => exact haborted.handlerStep hsettled hstep
  | shutdown => exact Option.some.inj hstep ▸ ⟨hsettled.shutdown, haborted.shutdown⟩
  | close =>
    simp only [step, close] at hstep
    split at hstep <;> cases hstep
    exact ⟨hsettled.of_frame rfl rfl rfl rfl, haborted⟩

/-- Every step of either loop, of the handler and of the server keeps the
    invariant. -/
theorem Invariant.step {label : Label} (hinvariant : Invariant requests self)
    (hstep : self.step label = some after) : Invariant requests after := by
  obtain ⟨hsettled, haborted | ⟨current, ledger, halive⟩⟩ := hinvariant
  · obtain ⟨hsettled', haborted'⟩ := haborted.step_spec hsettled hstep
    exact ⟨hsettled', .inl haborted'⟩
  · cases label with
    | receive =>
      have hsettled' := hsettled.of_replyState (receiveStep_replyState hstep)
      obtain haborted | ⟨current', ledger', halive'⟩ := halive.receiveStep hstep
      · exact ⟨hsettled', .inl haborted⟩
      · exact halive'.invariant hsettled'
    | reply result => exact halive.replyStep hsettled hstep
    | handler action => exact halive.handlerStep hsettled hstep
    | shutdown =>
      exact Option.some.inj hstep ▸ ⟨hsettled.shutdown, .inl (shutdown_aborted halive.state_ne)⟩
    | close =>
      have hvalid := halive.receiving.point
      simp only [Http11ServerConnection.step, close] at hstep
      split at hstep <;> cases hstep
      rename_i hpoint _ _
      simp [ReceivePointValid, hpoint] at hvalid

/-- A connection that starts on a socket which carries a stream of requests
    meets the invariant. -/
theorem start_invariant {configuration : HttpServerConfiguration} {socketIn : List (List ParserToken)}
    {started : Http11ServerConnection} (hcarries : Carries requests socketIn)
    (hstart : (new configuration socketIn).start = some started) : Invariant requests started := by
  obtain ⟨⟨events, hstream, hpre⟩, hbytes⟩ := hcarries
  simp only [start, new, if_true, Option.some.injEq] at hstart
  subst hstart
  refine ⟨⟨by simp, by simp [processing], by simp, by simp, rfl⟩, .inr ⟨0,
    { hasBody := fun _ => true, queued := fun _ => [], passed := fun _ => [] }, ?_, ?_, ?_⟩⟩
  · refine ⟨rfl, ⟨events, ?_, .inl (by simpa [unread] using hpre)⟩, by simpa [unread] using hbytes, ?_,
      fun _ => rfl⟩
    · exact .started rfl rfl (by simp [parsedSide, unpushed]) rfl (by simpa using hstream)
    · simp [ReceivePointValid, NextBufferValid, BuffersPassed, EnqueuedInTime,
        Http11ServerConnectionState.headersCompleted]
  · refine ⟨rfl, rfl, by simp [BoundedQueue.new, enqueuedCount], by simp [BoundedQueue.new], by simp,
      by simp, by simp [BoundedQueue.new, lanes], by simp, ?_, by simp, by simp⟩
    intro index hle
    obtain rfl : index = 0 := by omega
    simp [QueuedEnd, bodyQueued]
  · exact ⟨by simp, by simp, by simp [processing]⟩

/-- Over any run, the first handler is called for the requests of the stream in
    order, reads a part of each body, reads the whole body once a read reports
    its end, and never meets a chunk of another request. -/
theorem run_calls_spec {configuration : HttpServerConfiguration} {socketIn : List (List ParserToken)}
    {started final : Http11ServerConnection} {labels : List Label} (hcarries : Carries requests socketIn)
    (hstart : (new configuration socketIn).start = some started)
    (hrun : Machine.run step started labels = some final) :
    (∀ (index : Nat) (call : HandlerCall), final.calls[index]? = some call →
      ∃ wire : WireRequest, requests[index]? = some wire ∧
      call.request = wire.request ∧ call.chunks.flatten <+: wire.body ∧
      (call.ended = true → call.chunks.flatten = wire.body)) ∧ final.idMismatch = false := by
  have hinvariant : Invariant requests final := Machine.run_preserves
    (fun _ _ _ hstep hinvariant => hinvariant.step hstep) hrun (start_invariant hcarries hstart)
  exact ⟨hinvariant.1.calls, hinvariant.1.idMismatch⟩

/-- A request with a chunked body. -/
def chunkedPost : WireRequest where
  method := constants.POST
  http_major := 1
  http_minor := 1
  url := text "/upload"
  headers := [(constants.TransferEncoding, constants.Chunked)]
  body := text "abcd"

/-- A request without a body. -/
def plainGet : WireRequest where
  method := constants.GET
  http_major := 1
  http_minor := 1
  url := text "/"
  headers := []
  body := []

/-- What the parser reports for `chunkedPost`, sent in two chunks. -/
def chunkedPostTokens : List ParserToken := [
  { event := .messageBegin, bytes := 1 },
  { event := .url (text "/upload"), bytes := 12 },
  { event := .headerField constants.TransferEncoding, bytes := 28 },
  { event := .headerValue constants.Chunked, bytes := 9 },
  { event := .headersComplete constants.POST 1 1, bytes := 3 },
  { event := .body (text "ab"), bytes := 5 },
  { event := .body (text "cd"), bytes := 7 },
  { event := .messageComplete, bytes := 7 }]

def plainGetTokens : List ParserToken := [
  { event := .messageBegin, bytes := 1 },
  { event := .url (text "/"), bytes := 5 },
  { event := .headersComplete constants.GET 1 1, bytes := 12 },
  { event := .messageComplete, bytes := 0 }]

theorem chunkedPost_remaining : Remaining chunkedPost .begun (chunkedPostTokens.tail.map (·.event)) := by
  have hbody : Remaining chunkedPost (.body (text "ab" ++ (text "cd" ++ [])))
      [.body (text "ab"), .body (text "cd"), .messageComplete] :=
    .body (.body (@Remaining.bodyEnd _ [] (by simp)))
  have hheaders : Remaining chunkedPost
      (.headers [(constants.TransferEncoding ++ [], constants.Chunked ++ [])])
      (.headerField constants.TransferEncoding :: .headerValue constants.Chunked ::
        .headersComplete constants.POST 1 1 :: _) :=
    .header (.fieldEnd (.valueEnd (.headersEnd hbody)))
  have hurl : chunkedPost.url = text "/upload" ++ [] := rfl
  exact .begun hurl (.urlEnd hheaders)

theorem plainGet_remaining : Remaining plainGet .begun (plainGetTokens.tail.map (·.event)) := by
  have hurl : plainGet.url = text "/" ++ [] := rfl
  exact .begun hurl (.urlEnd (.headersEnd (@Remaining.bodyEnd _ [] (by simp))))

/-- One buffer with both requests. -/
theorem pipeline_carries : Carries [chunkedPost, plainGet] [chunkedPostTokens ++ plainGetTokens] := by
  refine ⟨⟨_, .cons chunkedPost_remaining (.cons plainGet_remaining .nil), [], rfl⟩, ?_⟩
  intro token htoken method http_major http_minor hevent
  have hbytes : ∀ other ∈ chunkedPostTokens ++ plainGetTokens, 0 < other.bytes ∨
      other.event = .messageComplete := by
    simp [chunkedPostTokens, plainGetTokens]
  obtain hpositive | hcomplete := hbytes token (by simpa using htoken)
  · exact hpositive
  · rw [hcomplete] at hevent
    cases hevent

def pipelineStarted : Http11ServerConnection :=
  (new {} [chunkedPostTokens ++ plainGetTokens]).start.getD (new {} [])

/-- Both requests are received and handled, the first with its body read. -/
def pipelineLabels : List Label :=
  List.replicate 7 Label.receive ++ [Label.reply .sent, .handler .read, .handler .read, .handler .read,
    .handler (.modify fun context => { context with response := { context.response with
      headers := { context.response.headers with contentLength := text "0" } } }),
    .handler (.finish []), .reply .sent] ++ List.replicate 3 Label.receive ++ [Label.reply .sent]

def pipelineFinal : Http11ServerConnection :=
  (Machine.run step pipelineStarted pipelineLabels).getD pipelineStarted

theorem run_calls_spec_pipeline : pipelineFinal.calls.length = 2 ∧
    (∀ (index : Nat) (call : HandlerCall), pipelineFinal.calls[index]? = some call →
      ∃ wire : WireRequest, [chunkedPost, plainGet][index]? = some wire ∧
      call.request = wire.request ∧ call.chunks.flatten <+: wire.body ∧
      (call.ended = true → call.chunks.flatten = wire.body)) ∧ pipelineFinal.idMismatch = false := by
  have hrun : Machine.run step pipelineStarted pipelineLabels = some pipelineFinal := rfl
  exact ⟨rfl, run_calls_spec pipeline_carries rfl hrun⟩

end cpv.Http11ServerConnection
