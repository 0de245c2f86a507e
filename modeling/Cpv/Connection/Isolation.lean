import Cpv.Connection.Closed
import Cpv.Connection.Pipelining

namespace cpv

/-- A body of some bytes is what the headers announced. -/
def HttpResponseHeaders.Announced (headers : HttpResponseHeaders) (length : Nat) : Prop :=
  ∀ announced ∈ decimalValue headers.contentLength, length = announced

instance (headers : HttpResponseHeaders) (length : Nat) : Decidable (headers.Announced length) :=
  inferInstanceAs (Decidable (∀ announced ∈ decimalValue headers.contentLength, length = announced))

/-- Output of complete responses: each has a header block, and behind it as many body bytes as the header block
    announced. -/
inductive CompleteResponses : List OutputEvent → Prop
  | nil : CompleteResponses []
  | append {before : List OutputEvent} {response : HttpResponse} {body : List SharedString} :
    CompleteResponses before → response.headers.Announced body.flatten.length →
      CompleteResponses (before ++ OutputEvent.responseHeaders response :: body.map .responseBody)

/-- Output of complete responses and one that may go on. -/
def ResponseBegun (out : List OutputEvent) : Prop :=
  ∃ (before : List OutputEvent) (response : HttpResponse) (body : List SharedString),
    CompleteResponses before ∧ out = before ++ OutputEvent.responseHeaders response :: body.map .responseBody

/-- An error response is the last output, behind complete responses only. -/
def ErrorIsolated (out : List OutputEvent) : Prop :=
  ∀ before data after, out = before ++ OutputEvent.errorResponse data :: after → after = [] ∧ CompleteResponses before

/-- The response at the end of some output, with the number of its body bytes. -/
def lastSent (out : List OutputEvent) : Option (HttpResponse × Nat) :=
  out.foldl (fun sent event => match event with
    | .responseHeaders response => some (response, 0)
    | .responseBody data => sent.map fun (response, length) => (response, length + data.length)
    | .errorResponse _ => sent) none

/-- The response at the end of some output has the body it announced. -/
def LastComplete (out : List OutputEvent) : Prop :=
  ∀ sent ∈ lastSent out, sent.1.headers.Announced sent.2

instance (out : List OutputEvent) : Decidable (LastComplete out) :=
  inferInstanceAs (Decidable (∀ sent ∈ lastSent out, sent.1.headers.Announced sent.2))

variable {out : List OutputEvent}

theorem lastSent_append (before : List OutputEvent) (response : HttpResponse) (body : List SharedString) :
    lastSent (before ++ OutputEvent.responseHeaders response :: body.map .responseBody) = some (response, body.flatten.length) := by
  induction body using List.reverseRecOn with
  | nil => simp [lastSent]
  | append_singleton body data ih =>
    rw [List.map_append, ← List.cons_append, ← List.append_assoc, lastSent, List.foldl_append]
    rw [lastSent] at ih
    rw [ih]
    simp

theorem ResponseBegun.complete (hbegun : ResponseBegun out) (hlast : LastComplete out) : CompleteResponses out := by
  obtain ⟨before, response, body, hbefore, rfl⟩ := hbegun
  exact .append hbefore (hlast _ (lastSent_append before response body))

/-- The header block of the next response. -/
theorem CompleteResponses.begin (hcomplete : CompleteResponses out) (response : HttpResponse) :
    ResponseBegun (out ++ [OutputEvent.responseHeaders response]) :=
  ⟨out, response, [], hcomplete, rfl⟩

/-- One more piece of body data. -/
theorem ResponseBegun.continue (hbegun : ResponseBegun out) (data : SharedString) :
    ResponseBegun (out ++ [OutputEvent.responseBody data]) := by
  obtain ⟨before, response, body, hbefore, rfl⟩ := hbegun
  exact ⟨before, response, body ++ [data], hbefore, by simp⟩

theorem CompleteResponses.errorResponse_not_mem (hcomplete : CompleteResponses out) (data : SharedString) :
    .errorResponse data ∉ out := by
  induction hcomplete with
  | nil => exact List.not_mem_nil
  | append hbefore hlength ih => simp [ih]

theorem ResponseBegun.errorResponse_not_mem (hbegun : ResponseBegun out) (data : SharedString) :
    .errorResponse data ∉ out := by
  obtain ⟨before, response, body, hbefore, rfl⟩ := hbegun
  simp [hbefore.errorResponse_not_mem data]

/-- Without an error response none of them corrupts a response. -/
theorem errorIsolated_of_responses (hout : CompleteResponses out ∨ ResponseBegun out) : ErrorIsolated out := by
  rintro before data after rfl
  have hmem : OutputEvent.errorResponse data ∈ before ++ OutputEvent.errorResponse data :: after := by simp
  obtain hcomplete | hbegun := hout
  · exact absurd hmem (hcomplete.errorResponse_not_mem data)
  · exact absurd hmem (hbegun.errorResponse_not_mem data)

/-- An error response behind complete responses is isolated. -/
theorem CompleteResponses.errorIsolated (hcomplete : CompleteResponses out) (data : SharedString) :
    ErrorIsolated (out ++ [OutputEvent.errorResponse data]) := by
  intro before other after hout
  cases after using List.reverseRecOn with
  | nil => exact ⟨rfl, (List.append_inj' hout rfl).1 ▸ hcomplete⟩
  | append_singleton after last =>
    have hbefore : out = before ++ OutputEvent.errorResponse other :: after := by
      rw [← List.cons_append, ← List.append_assoc] at hout
      exact (List.append_inj' hout rfl).1
    refine absurd ?_ (hcomplete.errorResponse_not_mem other)
    rw [hbefore]
    simp

namespace ReplySide

/-- What a handler wrote so far: the responses before its own, and its own one once the header block was sent. -/
def OutputValid (side : ReplySide) : Prop :=
  if side.replyLoopData.responseHeadersAppended then ResponseBegun side.socketOut
  else CompleteResponses side.socketOut

variable {side : ReplySide}

theorem OutputValid.responses (hvalid : side.OutputValid) :
    CompleteResponses side.socketOut ∨ ResponseBegun side.socketOut := by
  unfold OutputValid at hvalid
  split at hvalid
  · exact .inr hvalid
  · exact .inl hvalid

theorem OutputValid.appendResponseHeaders (hvalid : side.OutputValid) (now : SharedString) :
    ResponseBegun (appendResponseHeaders side now).socketOut ∧
      (appendResponseHeaders side now).replyLoopData.responseHeadersAppended = true := by
  unfold cpv.appendResponseHeaders
  unfold OutputValid at hvalid
  split at hvalid
  · rename_i happended
    rw [if_pos happended]
    exact ⟨hvalid, happended⟩
  · rename_i hnot
    rw [if_neg hnot]
    exact ⟨hvalid.begin _, rfl⟩

theorem OutputValid.write (hvalid : side.OutputValid) (data now : SharedString) :
    (cpv.write side data now).OutputValid := by
  obtain ⟨hbegun, happended⟩ := hvalid.appendResponseHeaders now
  have hout : (cpv.write side data now).replyLoopData.responseHeadersAppended = true := happended
  rw [OutputValid, if_pos hout]
  exact hbegun.continue data

theorem OutputValid.finishResponse (hvalid : side.OutputValid) (now : SharedString) :
    ResponseBegun (finishResponse side now).socketOut :=
  (hvalid.appendResponseHeaders now).1

end ReplySide

namespace Http11ServerConnection

variable {self after : Http11ServerConnection}

/-- What a connection put into its socket, where its reply loop stands. A response that may go on is behind the loop
    only when the connection is closing. -/
def OutputIsolated (self : Http11ServerConnection) : Prop :=
  match self.replyPoint with
  | .idle | .popping => CompleteResponses self.reply.socketOut
  | .handling | .readingBody => self.reply.OutputValid
  | .flushing => ResponseBegun self.reply.socketOut
  | .failed => CompleteResponses self.reply.socketOut ∨ ResponseBegun self.reply.socketOut
  | .loop => CompleteResponses self.reply.socketOut ∨
      (ResponseBegun self.reply.socketOut ∧ self.receive.state = .Closing)
  | .done => ErrorIsolated self.reply.socketOut

/-- The reply loop sends an error response, and keeps a connection for the next request, only behind a response that
    has the body it announced. -/
def LeavesComplete (self : Http11ServerConnection) : Label → Prop
  | .reply result =>
    (self.replyPoint = .loop → self.receive.state = .Closing → self.lastErrorResponse ≠ [] → result = .sent →
      LastComplete self.reply.socketOut) ∧
    (self.replyPoint = .flushing → self.reply.replyLoopData.keepConnection = true → result ≠ .failed false →
      LastComplete self.reply.socketOut)
  | _ => True

instance : ∀ (self : Http11ServerConnection) (label : Label), Decidable (self.LeavesComplete label)
  | _, .reply _ => inferInstanceAs (Decidable (_ ∧ _))
  | _, .receive | _, .handler _ | _, .shutdown | _, .close => inferInstanceAs (Decidable True)

theorem OutputIsolated.of_replyState (hisolated : self.OutputIsolated) (hstate : after.replyState = self.replyState)
    (hclosing : self.receive.state = .Closing → after.receive.state = .Closing) : after.OutputIsolated := by
  simp only [replyState, Prod.mk.injEq] at hstate
  obtain ⟨-, hreply, hpoint, -⟩ := hstate
  unfold OutputIsolated at hisolated ⊢
  rw [hpoint, hreply]
  cases hself : self.replyPoint with
  | loop =>
    simp only [hself] at hisolated ⊢
    exact hisolated.imp_right (And.imp_right hclosing)
  | _ => simpa only [hself] using hisolated

theorem handleBodyEntry_isolated (self : Http11ServerConnection) (entry : BodyEntry)
    (hvalid : self.reply.OutputValid) : (self.handleBodyEntry entry).OutputIsolated := by
  unfold handleBodyEntry
  split
  · exact hvalid
  · exact hvalid

theorem handleRequest_isolated (self : Http11ServerConnection) (entry : RequestEntry)
    (hcomplete : CompleteResponses self.reply.socketOut) : (self.handleRequest entry).OutputIsolated :=
  hcomplete

theorem shutdown_loop_isolated (hout : CompleteResponses self.reply.socketOut ∨ ResponseBegun self.reply.socketOut) :
    ({ self.shutdown with replyPoint := .loop } : Http11ServerConnection).OutputIsolated := by
  change CompleteResponses self.shutdown.reply.socketOut ∨
    (ResponseBegun self.shutdown.reply.socketOut ∧ self.shutdown.receive.state = .Closing)
  rw [self.shutdown_frame.2.1]
  exact hout.imp_right fun hbegun => ⟨hbegun, self.shutdown_state⟩

theorem OutputIsolated.replyStep {result : SendResult} (hisolated : self.OutputIsolated)
    (hleaves : self.LeavesComplete (.reply result)) (hstep : self.replyStep result = some after) :
    after.OutputIsolated := by
  obtain ⟨hloop, hkeep⟩ := hleaves
  unfold OutputIsolated at hisolated
  unfold Http11ServerConnection.replyStep at hstep
  cases hpoint : self.replyPoint with
  | idle | handling | done => simp only [hpoint, reduceCtorEq] at hstep
  | loop =>
    simp only [hpoint, replyResponseLoop, Option.some.injEq] at hstep hisolated
    split at hstep
    · rename_i hclosing
      have hout : ErrorIsolated self.reply.socketOut := errorIsolated_of_responses (hisolated.imp_right And.left)
      split at hstep
      · exact hstep ▸ hout
      · rename_i herror
        rw [← hstep]
        change ErrorIsolated (if result = .sent then _ else _)
        split
        · rename_i hsent
          refine CompleteResponses.errorIsolated ?_ _
          obtain hcomplete | hbegun := hisolated
          · exact hcomplete
          · exact hbegun.1.complete (hloop hpoint hclosing herror hsent)
        · exact hout
    · rename_i hopen
      have hcomplete := hisolated.resolve_right fun hbegun => hopen hbegun.2
      split at hstep
      · exact hstep ▸ handleRequest_isolated _ _ hcomplete
      · exact hstep ▸ .inl hcomplete
      · exact hstep ▸ hcomplete
  | popping =>
    simp only [hpoint] at hstep hisolated
    split at hstep <;> cases hstep
    · exact handleRequest_isolated _ _ hisolated
    · exact .inl hisolated
  | readingBody =>
    simp only [hpoint] at hstep hisolated
    split at hstep <;> cases hstep
    · exact handleBodyEntry_isolated _ _ hisolated
    · exact hisolated
  | flushing =>
    simp only [hpoint] at hstep hisolated
    split at hstep
    · rename_i hkept
      split at hstep <;> cases hstep
      · exact .inr hisolated
      · rename_i hsent
        exact .inl (hisolated.complete (hkeep hpoint hkept hsent))
    · split at hstep <;> cases hstep
      · exact shutdown_loop_isolated (.inr hisolated)
      · exact .inr hisolated
  | failed =>
    simp only [hpoint] at hstep hisolated
    exact Option.some.inj hstep ▸ shutdown_loop_isolated hisolated

theorem OutputIsolated.handlerStep {action : HandlerAction} (hisolated : self.OutputIsolated)
    (hstep : self.handlerStep action = some after) : after.OutputIsolated := by
  unfold Http11ServerConnection.handlerStep at hstep
  split at hstep
  · rename_i hpoint
    simp only [OutputIsolated, hpoint] at hisolated
    cases action with
    | read =>
      simp only [read, Option.some.injEq] at hstep
      split at hstep
      · exact hstep ▸ hisolated
      · split at hstep
        · exact hstep ▸ handleBodyEntry_isolated _ _ hisolated
        · exact hstep ▸ hisolated
        · exact hstep ▸ hisolated
    | modify change =>
      rw [← Option.some.inj hstep]
      simpa only [OutputIsolated, hpoint, ReplySide.OutputValid] using hisolated
    | write data now =>
      rw [← Option.some.inj hstep]
      simpa only [OutputIsolated, hpoint] using hisolated.write data now
    | finish now => exact Option.some.inj hstep ▸ hisolated.finishResponse now
    | throw =>
      rw [← Option.some.inj hstep]
      exact hisolated.responses
  · cases hstep

/-- What one step that leaves complete responses does to the output. -/
theorem OutputIsolated.step {label : Label} (hisolated : self.OutputIsolated) (hleaves : self.LeavesComplete label)
    (hstep : self.step label = some after) : after.OutputIsolated := by
  cases label with
  | receive => exact hisolated.of_replyState (receiveStep_replyState hstep) (stateKept_Closing.receiveStep hstep)
  | reply result => exact hisolated.replyStep hleaves hstep
  | handler action => exact hisolated.handlerStep hstep
  | shutdown =>
    exact Option.some.inj hstep ▸ hisolated.of_replyState self.shutdown_replyState fun _ => self.shutdown_state
  | close =>
    simp only [Http11ServerConnection.step, close] at hstep
    split at hstep <;> cases hstep
    rename_i hpoint _
    simpa only [OutputIsolated, hpoint] using hisolated

theorem OutputIsolated.errorIsolated (hisolated : self.OutputIsolated) : ErrorIsolated self.reply.socketOut := by
  unfold OutputIsolated at hisolated
  cases hpoint : self.replyPoint <;> simp only [hpoint] at hisolated
  case idle | popping => exact errorIsolated_of_responses (.inl hisolated)
  case handling | readingBody => exact errorIsolated_of_responses hisolated.responses
  case flushing => exact errorIsolated_of_responses (.inr hisolated)
  case failed => exact errorIsolated_of_responses hisolated
  case loop => exact errorIsolated_of_responses (hisolated.imp_right And.left)
  case done => exact hisolated

end Http11ServerConnection

end cpv
