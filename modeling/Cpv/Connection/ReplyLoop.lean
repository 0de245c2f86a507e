import Cpv.Connection.Invariant

namespace cpv.Http11ServerConnection

variable {requests : List WireRequest} {self : Http11ServerConnection} {current : Nat} {ledger : Ledger}

theorem Settled.of_frame {after : Http11ServerConnection} (hsettled : Settled requests self)
    (hcalls : after.calls = self.calls) (hpoint : after.replyPoint = self.replyPoint)
    (hdata : after.reply.replyLoopData = self.reply.replyLoopData)
    (hmismatch : after.idMismatch = self.idMismatch) : Settled requests after where
  calls := by rw [hcalls]; exact hsettled.calls
  consumed := by simpa only [processing, hcalls, hpoint, hdata] using hsettled.consumed
  flushing := by rw [hpoint, hdata]; exact hsettled.flushing
  reading := by rw [hpoint, hdata]; exact hsettled.reading
  idMismatch := by rw [hmismatch]; exact hsettled.idMismatch

/-- A call in progress stays in progress, with the same data read. -/
theorem Settled.of_processing {after : Http11ServerConnection} (hsettled : Settled requests self)
    (hprocessing : self.processing) (hcalls : after.calls = self.calls)
    (hconsumed : after.reply.replyLoopData.requestBodyConsumed = self.reply.replyLoopData.requestBodyConsumed)
    (hflushing : after.replyPoint = .flushing → after.reply.replyLoopData.keepConnection = true →
      self.reply.replyLoopData.requestBodyConsumed = true)
    (hreading : after.replyPoint = .readingBody → self.reply.replyLoopData.requestBodyConsumed = false)
    (hmismatch : after.idMismatch = self.idMismatch) : Settled requests after where
  calls := by rw [hcalls]; exact hsettled.calls
  consumed := by rw [hconsumed, hcalls]; exact fun _ => hsettled.consumed hprocessing
  flushing := by rw [hconsumed]; exact hflushing
  reading := by rw [hconsumed]; exact hreading
  idMismatch := by rw [hmismatch]; exact hsettled.idMismatch

/-- Where no call is in progress, nothing but the calls made so far matters. -/
theorem Settled.of_not_processing {after : Http11ServerConnection} (hsettled : Settled requests self)
    (hcalls : after.calls = self.calls) (hpoint : ¬after.processing)
    (hmismatch : after.idMismatch = self.idMismatch) : Settled requests after where
  calls := by rw [hcalls]; exact hsettled.calls
  consumed := fun h => absurd h hpoint
  flushing := fun h => absurd (.inr (.inr h)) hpoint
  reading := fun h => absurd (.inr (.inl h)) hpoint
  idMismatch := by rw [hmismatch]; exact hsettled.idMismatch

theorem enqueuedCount_le (self : Http11ServerConnection) (current : Nat) :
    self.enqueuedCount current ≤ current + 1 := by
  unfold enqueuedCount
  split
  · omega
  · split <;> omega

/-- A request whose handler has nothing to wait for was read as a whole. -/
theorem Alive.passed_of_not_hasBody {index : Nat} (halive : Alive requests self current ledger)
    (hindex : index ≤ current) (hbody : ledger.hasBody index = false) :
    ∃ wire, requests[index]? = some wire ∧ ledger.passed index = wire.body := by
  have hend := halive.queued.ends index hindex
  rw [hbody] at hend
  obtain ⟨hended, hnil⟩ := hend
  obtain hlt | hqueued := hended
  · obtain ⟨wire, hwire, hwhole⟩ := halive.queued.received index hlt
    exact ⟨wire, hwire, by simpa [hnil, bodyData] using hwhole⟩
  · by_cases hlt : index < current
    · obtain ⟨wire, hwire, hwhole⟩ := halive.queued.received index hlt
      exact ⟨wire, hwire, by simpa [hnil, bodyData] using hwhole⟩
    · obtain rfl : index = current := by omega
      obtain ⟨events, hahead, -⟩ := halive.receiving.ahead
      have hstate : self.parsedSide.state = .ReceiveRequestMessageComplete := hqueued.1
      obtain ⟨wire, hwire, -, -, hwhole⟩ := hahead.headersCompleted_spec (by rw [hstate]; rfl)
      refine ⟨wire, hwire, ?_⟩
      simpa [hnil, bodyData, parsedSide, hqueued.2] using hwhole hstate

/-- What was read of a request begins its body. -/
theorem Alive.passed_begins {index : Nat} (halive : Alive requests self current ledger)
    (hindex : index ≤ current) (hcompleted : index = current → self.receive.state.headersCompleted) :
    ∃ wire, requests[index]? = some wire ∧ ledger.passed index <+: wire.body := by
  by_cases hlt : index < current
  · obtain ⟨wire, hwire, hwhole⟩ := halive.queued.received index hlt
    exact ⟨wire, hwire, hwhole ▸ List.prefix_append _ _⟩
  · obtain rfl : index = current := by omega
    obtain ⟨events, hahead, -⟩ := halive.receiving.ahead
    obtain ⟨wire, hwire, -, hpre, -⟩ := hahead.headersCompleted_spec (hcompleted rfl)
    rw [List.append_assoc] at hpre
    exact ⟨wire, hwire, (List.prefix_append _ _).trans hpre⟩

/-- The reply loop starts handling the request it popped. -/
theorem Alive.handleRequest {entry : RequestEntry} {requestQueue : BoundedQueue RequestEntry}
    (halive : Alive requests self current ledger) (hidle : ¬self.processing)
    (hfailed : self.replyPoint ≠ .failed) (hpop : self.requestQueue.popEventually = .ready (entry, requestQueue)) :
    Alive requests ({ self with requestQueue }.handleRequest entry) current ledger := by
  obtain ⟨hreceiving, hqueued, hreplying⟩ := halive
  obtain ⟨hopen, hitems, hqueue⟩ := BoundedQueue.popEventually_eq_ready.mp hpop
  obtain ⟨wire, hwire, hentry⟩ := hqueued.requestEntries 0 entry (by rw [hitems]; rfl)
  refine ⟨{ hreceiving with }, { hqueued with
      requestQueue_open := ?_, enqueued := ?_, requestEntries := ?_ },
    { handled := ?_, unhandled := ?_, lastCall := ?_ }⟩
  · rw [hqueue]
    exact hopen
  · have hcount := hqueued.enqueued
    rw [hitems, List.length_cons] at hcount
    simp only [Http11ServerConnection.handleRequest, List.length_append, List.length_singleton]
    refine Eq.trans ?_ hcount
    omega
  · intro index other hother
    have hother : self.requestQueue.items[index + 1]? = some other := by
      rw [hitems]
      exact hother
    obtain ⟨wire, hwire, hother⟩ := hqueued.requestEntries (index + 1) other hother
    simp only [Http11ServerConnection.handleRequest, List.length_append, List.length_singleton]
    rw [Nat.add_assoc, Nat.add_comm 1 index]
    exact ⟨wire, hwire, hother⟩
  · intro index hlt hbody
    simp only [Http11ServerConnection.handleRequest, List.length_append, List.length_singleton] at hlt ⊢
    by_cases hlast : index = self.calls.length
    · exact ⟨.inl (.inl rfl), by omega⟩
    · obtain ⟨hprocessing | hpoint, -⟩ := hreplying.handled index (by omega) hbody
      · exact absurd hprocessing hidle
      · exact absurd hpoint hfailed
  · intro index hge
    simp only [Http11ServerConnection.handleRequest, List.length_append, List.length_singleton] at hge
    exact hreplying.unhandled index (by omega)
  · intro _
    refine ⟨self.calls, _, rfl, hreplying.unhandled _ le_rfl, ?_, ?_⟩
    · simp [Http11ServerConnection.handleRequest, hentry]
    · simp [Http11ServerConnection.handleRequest, hentry]

theorem callValid_concat {calls : List HandlerCall} {call : HandlerCall}
    (hcalls : ∀ index other, calls[index]? = some other → CallValid requests index other)
    (hvalid : CallValid requests calls.length call) :
    ∀ index other, (calls ++ [call])[index]? = some other → CallValid requests index other := by
  intro index other hother
  obtain hlt | hge := Nat.lt_or_ge index calls.length
  · rw [List.getElem?_append_left hlt] at hother
    exact hcalls index other hother
  · rw [List.getElem?_append_right hge, List.getElem?_singleton] at hother
    split at hother
    · obtain rfl := Option.some.inj hother
      obtain rfl : index = calls.length := by omega
      exact hvalid
    · cases hother

theorem Settled.handleRequest {entry : RequestEntry} {requestQueue : BoundedQueue RequestEntry}
    (hsettled : Settled requests self) (halive : Alive requests self current ledger)
    (hpop : self.requestQueue.popEventually = .ready (entry, requestQueue)) :
    Settled requests ({ self with requestQueue }.handleRequest entry) := by
  obtain ⟨-, hitems, -⟩ := BoundedQueue.popEventually_eq_ready.mp hpop
  obtain ⟨wire, hwire, hentry⟩ := halive.queued.requestEntries 0 entry (by rw [hitems]; rfl)
  have hcount := halive.queued.enqueued
  rw [hitems, List.length_cons] at hcount
  have hle := self.enqueuedCount_le current
  refine ⟨?_, ?_, ?_, ?_, hsettled.idMismatch⟩
  · exact callValid_concat hsettled.calls ⟨wire, hwire, by rw [hentry], by simp, by simp⟩
  · intro _ hconsumed
    have hbody : ledger.hasBody self.calls.length = false := by
      simpa [Http11ServerConnection.handleRequest, hentry] using hconsumed
    obtain ⟨wire, hwire, hpassed⟩ := halive.passed_of_not_hasBody (by omega) hbody
    rw [halive.replying.unhandled _ le_rfl] at hpassed
    exact ⟨self.calls, _, wire, rfl, hwire, hpassed⟩
  · simp [Http11ServerConnection.handleRequest]
  · simp [Http11ServerConnection.handleRequest]

theorem readResult_calls (self : Http11ServerConnection) {calls : List HandlerCall} {call : HandlerCall}
    (data : SharedString) (isEnd : Bool) (hcalls : self.calls = calls ++ [call]) :
    (self.readResult data isEnd).calls =
      calls ++ [{ call with chunks := call.chunks ++ [data], ended := call.ended || isEnd }] := by
  simp [readResult, hcalls, List.modify_eq_take_drop]

/-- A read that finds the body consumed keeps the invariant. -/
theorem Alive.readResult (halive : Alive requests self current ledger) (hprocessing : self.processing) :
    Alive requests (self.readResult [] true) current ledger := by
  obtain ⟨hreceiving, hqueued, hreplying⟩ := halive
  obtain ⟨calls, call, hcalls, hpassed, hid, hconsumed⟩ := hreplying.lastCall hprocessing
  have hafter := self.readResult_calls [] true hcalls
  have hlength : (self.readResult [] true).calls.length = self.calls.length := by
    rw [hafter, hcalls]
    simp
  refine ⟨{ hreceiving with }, { hqueued with enqueued := ?_, requestEntries := ?_ },
    { handled := ?_, unhandled := ?_, lastCall := ?_ }⟩
  · rw [hlength]
    exact hqueued.enqueued
  · rw [hlength]
    exact hqueued.requestEntries
  · rw [hlength]
    exact fun index hlt hbody => ⟨.inl (.inl rfl), (hreplying.handled index hlt hbody).2⟩
  · rw [hlength]
    exact hreplying.unhandled
  · exact fun _ => ⟨calls, _, hafter, by simpa using hpassed, hid, hconsumed⟩

/-- What the last call was given in the meantime leaves the other calls alone. -/
theorem Settled.lastCall {calls : List HandlerCall} {call call' : HandlerCall} (hsettled : Settled requests self)
    (hcalls : self.calls = calls ++ [call]) (hvalid : CallValid requests calls.length call') :
    ∀ index other, (calls ++ [call'])[index]? = some other → CallValid requests index other := by
  refine callValid_concat (fun index other hother => hsettled.calls index other ?_) hvalid
  rw [hcalls, List.getElem?_append_left (List.getElem?_eq_some_iff.mp hother).1]
  exact hother

theorem Settled.readResult (hsettled : Settled requests self) (hprocessing : self.processing)
    (hconsumed : self.reply.replyLoopData.requestBodyConsumed = true) :
    Settled requests (self.readResult [] true) := by
  obtain ⟨calls, call, wire, hcalls, hwire, hwhole⟩ := hsettled.consumed hprocessing hconsumed
  have hafter := self.readResult_calls [] true hcalls
  refine ⟨?_, ?_, ?_, ?_, hsettled.idMismatch⟩
  · rw [hafter]
    apply hsettled.lastCall hcalls
    obtain ⟨wire', hwire', hrequest, -⟩ := hsettled.calls calls.length call (by simp [hcalls])
    obtain rfl : wire = wire' := Option.some.inj (hwire.symm.trans hwire')
    exact ⟨wire, hwire, hrequest, by simp [hwhole], by simp [hwhole]⟩
  · exact fun _ _ => ⟨calls, _, wire, hafter, hwire, by simpa using hwhole⟩
  · simp [Http11ServerConnection.readResult]
  · simp [Http11ServerConnection.readResult]

/-- The front of the body queue belongs to the request that is processed, by the last call. -/
structure Front (connection : Http11ServerConnection) (current : Nat) (ledger : Ledger) (entry : BodyEntry)
    (requestBodyQueue : BoundedQueue BodyEntry) (calls : List HandlerCall) (call : HandlerCall)
    (tail : List BodyEntry) : Prop where
  calls_eq : connection.calls = calls ++ [call]
  le : calls.length ≤ current
  hasBody : ledger.hasBody calls.length = true
  queued : ledger.queued calls.length = entry :: tail
  id : entry.id = connection.reply.replyLoopData.requestId
  items : requestBodyQueue.items = lanes (ledger.pop calls.length entry tail).queued (current + 1)
  last : calls.length = current → connection.receive.receiveLoopData.requestEnqueued = true ∧
    connection.receive.state.headersCompleted = true ∧
      ∀ request, connection.receivePoint ≠ .pushingRequest request

theorem Alive.front {entry : BodyEntry} {requestBodyQueue : BoundedQueue BodyEntry}
    (halive : Alive requests self current ledger) (hprocessing : self.processing)
    (hconsumed : self.reply.replyLoopData.requestBodyConsumed = false)
    (hpop : self.requestBodyQueue.popEventually = .ready (entry, requestBodyQueue)) :
    ∃ calls call tail, Front self current ledger entry requestBodyQueue calls call tail := by
  obtain ⟨hreceiving, hqueued, hreplying⟩ := halive
  obtain ⟨-, hitems, hqueue⟩ := BoundedQueue.popEventually_eq_ready.mp hpop
  obtain ⟨calls, call, hcalls, hpassed, hid, hbody⟩ := hreplying.lastCall hprocessing
  have hbody : ledger.hasBody calls.length = true := by simpa [hconsumed] using hbody.symm
  have hlength : self.calls.length = calls.length + 1 := by simp [hcalls]
  have hcount := hqueued.enqueued
  have hcountLe := self.enqueuedCount_le current
  have hle : calls.length ≤ current := by omega
  have hbefore : ∀ lane < calls.length, ledger.queued lane = [] := by
    intro lane hlane
    have hend := hqueued.ends lane (by omega)
    cases hlaneBody : ledger.hasBody lane with
    | false =>
      rw [hlaneBody] at hend
      exact hend.2
    | true =>
      have := (hreplying.handled lane (by omega) hlaneBody).2
      omega
  obtain ⟨first, tail, hfirst⟩ : ∃ first tail, ledger.queued calls.length = first :: tail := by
    cases hcase : ledger.queued calls.length with
    | cons first tail => exact ⟨first, tail, rfl⟩
    | nil =>
      have hend := hqueued.ends calls.length hle
      rw [hbody, hcase] at hend
      obtain ⟨-, init, last, hentries, -⟩ | ⟨hended, -⟩ := hend
      · simp at hentries
      · obtain rfl : calls.length = current := by
          by_contra hne
          exact hended (.inl (by omega))
        have hnil : lanes ledger.queued (calls.length + 1) = [] := by
          rw [lanes_succ, hcase, lanes_eq_nil hbefore, List.append_nil]
        rw [hqueued.bodyEntries, hnil] at hitems
        cases hitems
  have hlanes := lanes_pop (Nat.lt_succ_of_le hle) hbefore hfirst
  rw [hqueued.bodyEntries, hlanes] at hitems
  obtain ⟨rfl, hrest⟩ := List.cons.inj hitems
  refine ⟨calls, call, tail, hcalls, hle, hbody, hfirst, ?_, hrest.symm, ?_⟩
  · rw [hid]
    exact hqueued.ids _ _ (by rw [hfirst]; simp)
  · intro hlast
    refine ⟨?_, ?_, ?_⟩
    · cases henqueued : self.receive.receiveLoopData.requestEnqueued with
      | true => rfl
      | false =>
        have : self.enqueuedCount current ≤ current := by
          unfold enqueuedCount
          split <;> simp [henqueued]
        omega
    · cases hcompleted : self.receive.state.headersCompleted with
      | true => rfl
      | false =>
        have hfresh := hreceiving.fresh hcompleted
        rw [← hlast, hfirst] at hfresh
        cases hfresh
    · intro request hpoint
      have : self.enqueuedCount current = current := by simp [enqueuedCount, hpoint]
      omega

/-- A connection that handed a body entry to its handler. -/
abbrev entryRead (self : Http11ServerConnection) (requestBodyQueue : BoundedQueue BodyEntry) (entry : BodyEntry) :
    Http11ServerConnection :=
  { self with
    requestBodyQueue
    reply := { self.reply with replyLoopData := { self.reply.replyLoopData with
      requestBodyConsumed := self.reply.replyLoopData.requestBodyConsumed || entry.isEnd } } }.readResult
    entry.buffer entry.isEnd

namespace Front

variable {entry : BodyEntry} {requestBodyQueue : BoundedQueue BodyEntry} {calls : List HandlerCall}
  {call : HandlerCall} {tail : List BodyEntry}

theorem handleBodyEntry_eq (hfront : Front self current ledger entry requestBodyQueue calls call tail) :
    { self with requestBodyQueue }.handleBodyEntry entry = self.entryRead requestBodyQueue entry := by
  rw [Http11ServerConnection.handleBodyEntry, if_neg (not_not.mpr hfront.id)]

theorem calls_entryRead (hfront : Front self current ledger entry requestBodyQueue calls call tail) :
    (self.entryRead requestBodyQueue entry).calls =
      calls ++ [{ call with chunks := call.chunks ++ [entry.buffer], ended := call.ended || entry.isEnd }] :=
  readResult_calls _ _ _ hfront.calls_eq

theorem length_calls (hfront : Front self current ledger entry requestBodyQueue calls call tail) :
    (self.entryRead requestBodyQueue entry).calls.length = self.calls.length := by
  rw [hfront.calls_entryRead, hfront.calls_eq, List.length_append, List.length_append]
  rfl

theorem length_eq (hfront : Front self current ledger entry requestBodyQueue calls call tail) :
    self.calls.length = calls.length + 1 := by
  simp [hfront.calls_eq]

/-- Until a request is enqueued it has no call. -/
theorem ne_current (hfront : Front self current ledger entry requestBodyQueue calls call tail)
    (hnot : self.receive.receiveLoopData.requestEnqueued = false) : current ≠ calls.length := by
  intro heq
  rw [(hfront.last heq.symm).1] at hnot
  cases hnot

theorem receiving (hfront : Front self current ledger entry requestBodyQueue calls call tail)
    (hreceiving : Receiving requests self current (ledger.passed current ++ bodyData (ledger.queued current))
      (ledger.queued current)) :
    Receiving requests (self.entryRead requestBodyQueue entry) current
      ((ledger.pop calls.length entry tail).passed current ++
        bodyData ((ledger.pop calls.length entry tail).queued current))
      ((ledger.pop calls.length entry tail).queued current) := by
  obtain ⟨-, hselfQueued, hselfPassed⟩ := ledger.pop_self calls.length entry tail
  have hne := fun other (hne : other ≠ calls.length) => ledger.pop_of_ne entry tail hne
  have hhanded : (ledger.pop calls.length entry tail).passed current ++
      bodyData ((ledger.pop calls.length entry tail).queued current) =
        ledger.passed current ++ bodyData (ledger.queued current) := by
    by_cases hcurrent : current = calls.length
    · rw [hcurrent, hselfQueued, hselfPassed, hfront.queued]
      simp [bodyData]
    · rw [(hne current hcurrent).2.1, (hne current hcurrent).2.2]
  refine ⟨hreceiving.requestId, ?_, hreceiving.bytes, ?_, ?_⟩
  · rw [hhanded]
    exact hreceiving.ahead
  · exact hreceiving.point.of_queued fun hnot => (hne current (hfront.ne_current hnot)).2.1
  · intro hcompleted
    change self.receive.state.headersCompleted = false at hcompleted
    have hnotLast : current ≠ calls.length := by
      intro heq
      rw [(hfront.last heq.symm).2.1] at hcompleted
      cases hcompleted
    rw [(hne current hnotLast).2.1]
    exact hreceiving.fresh hcompleted

theorem queued_entryRead (hfront : Front self current ledger entry requestBodyQueue calls call tail)
    (hpop : self.requestBodyQueue.popEventually = .ready (entry, requestBodyQueue))
    (hqueued : Queued requests self current ledger) :
    Queued requests (self.entryRead requestBodyQueue entry) current (ledger.pop calls.length entry tail) := by
  obtain ⟨hopen, -, hqueue⟩ := BoundedQueue.popEventually_eq_ready.mp hpop
  have hlength := hfront.length_eq
  obtain ⟨hselfBody, hselfQueued, hselfPassed⟩ := ledger.pop_self calls.length entry tail
  have hne := fun other (hne : other ≠ calls.length) => ledger.pop_of_ne entry tail hne
  refine { hqueued with
    requestBodyQueue_open := ?_, enqueued := ?_, requestEntries := ?_, pushingRequest := ?_
    hasBody_current := ?_, bodyEntries := hfront.items, ids := ?_, ends := ?_, received := ?_, later := ?_ }
  · change requestBodyQueue.aborted = false
    rw [hqueue]
    exact hopen
  · rw [hfront.length_calls]
    exact hqueued.enqueued
  · intro index other hother
    rw [hfront.length_calls]
    obtain ⟨wire, hwire, hother⟩ := hqueued.requestEntries index other hother
    exact ⟨wire, hwire, by rw [(hne _ (by omega)).1, hother]⟩
  · intro other hpoint
    obtain ⟨wire, hwire, hother⟩ := hqueued.pushingRequest other hpoint
    refine ⟨wire, hwire, ?_⟩
    rw [(hne current fun heq => (hfront.last heq.symm).2.2 other hpoint).1, hother]
  · intro hnot
    rw [(hne current (hfront.ne_current hnot)).1]
    exact hqueued.hasBody_current hnot
  · intro index other hother
    by_cases hindex : index = calls.length
    · rw [hindex, hselfQueued] at hother
      rw [hindex]
      exact hqueued.ids _ other (by rw [hfront.queued]; exact List.mem_cons_of_mem _ hother)
    · rw [(hne index hindex).2.1] at hother
      exact hqueued.ids index other hother
  · intro index hindexLe
    have hend := hqueued.ends index hindexLe
    by_cases hindex : index = calls.length
    · subst hindex
      rw [hselfBody, hselfQueued]
      rw [hfront.hasBody, hfront.queued] at hend
      exact hend.pop
    · rw [(hne index hindex).1, (hne index hindex).2.1]
      exact hend
  · intro index hlt
    obtain ⟨wire, hwire, hwhole⟩ := hqueued.received index hlt
    refine ⟨wire, hwire, ?_⟩
    by_cases hindex : index = calls.length
    · subst hindex
      rw [hselfQueued, hselfPassed, ← hwhole, hfront.queued]
      simp [bodyData]
    · rw [(hne index hindex).2.1, (hne index hindex).2.2]
      exact hwhole
  · intro index hgt
    have hle := hfront.le
    rw [(hne index (by omega)).1, (hne index (by omega)).2.1]
    exact hqueued.later index hgt

theorem replying (hfront : Front self current ledger entry requestBodyQueue calls call tail)
    (hprocessing : self.processing) (hconsumed : self.reply.replyLoopData.requestBodyConsumed = false)
    (hreplying : Replying self ledger) :
    Replying (self.entryRead requestBodyQueue entry) (ledger.pop calls.length entry tail) := by
  obtain ⟨_, _, hcalls, hpassed, hrequestId, -⟩ := hreplying.lastCall hprocessing
  obtain ⟨rfl, hcall⟩ := List.append_inj' (hfront.calls_eq.symm.trans hcalls) rfl
  obtain rfl := List.singleton_inj.mp hcall
  have hlength := hfront.length_eq
  obtain ⟨hselfBody, -, hselfPassed⟩ := ledger.pop_self calls.length entry tail
  have hne := fun other (hne : other ≠ calls.length) => ledger.pop_of_ne entry tail hne
  refine ⟨?_, ?_, ?_⟩
  · rw [hfront.length_calls]
    intro index hlt hindexBody
    by_cases hindex : index = calls.length
    · exact ⟨.inl (.inl rfl), by omega⟩
    · rw [(hne index hindex).1] at hindexBody
      exact ⟨.inl (.inl rfl), (hreplying.handled index hlt hindexBody).2⟩
  · rw [hfront.length_calls]
    intro index hge
    rw [(hne index (by omega)).2.2]
    exact hreplying.unhandled index hge
  · intro _
    refine ⟨calls, _, hfront.calls_entryRead, ?_, hrequestId, ?_⟩
    · rw [hselfPassed, hpassed]
      simp
    · rw [hselfBody]
      simp [Http11ServerConnection.readResult, hconsumed]

end Front

/-- A read of the next body entry keeps the invariant. -/
theorem Alive.handleBodyEntry {entry : BodyEntry} {requestBodyQueue : BoundedQueue BodyEntry}
    (halive : Alive requests self current ledger) (hprocessing : self.processing)
    (hconsumed : self.reply.replyLoopData.requestBodyConsumed = false)
    (hpop : self.requestBodyQueue.popEventually = .ready (entry, requestBodyQueue)) :
    ∃ ledger', Alive requests ({ self with requestBodyQueue }.handleBodyEntry entry) current ledger' := by
  obtain ⟨calls, call, tail, hfront⟩ := halive.front hprocessing hconsumed hpop
  rw [hfront.handleBodyEntry_eq]
  exact ⟨ledger.pop calls.length entry tail, hfront.receiving halive.receiving,
    hfront.queued_entryRead hpop halive.queued, hfront.replying hprocessing hconsumed halive.replying⟩

theorem Settled.handleBodyEntry {entry : BodyEntry} {requestBodyQueue : BoundedQueue BodyEntry}
    (hsettled : Settled requests self) (halive : Alive requests self current ledger)
    (hprocessing : self.processing) (hconsumed : self.reply.replyLoopData.requestBodyConsumed = false)
    (hpop : self.requestBodyQueue.popEventually = .ready (entry, requestBodyQueue)) :
    Settled requests ({ self with requestBodyQueue }.handleBodyEntry entry) := by
  obtain ⟨ledger', halive'⟩ := halive.handleBodyEntry hprocessing hconsumed hpop
  obtain ⟨calls, call, tail, hfront⟩ := halive.front hprocessing hconsumed hpop
  have hafter := hfront.calls_entryRead
  rw [hfront.handleBodyEntry_eq] at halive' ⊢
  obtain ⟨hcalls, hle, -, -, -, -, hlast⟩ := hfront
  obtain ⟨calls', call', hcalls', hpassed, -, hbody⟩ := halive'.replying.lastCall (.inl rfl)
  obtain ⟨rfl, hcall⟩ := List.append_inj' (hafter.symm.trans hcalls') rfl
  obtain rfl := List.singleton_inj.mp hcall
  obtain ⟨wire, hwire, hpre⟩ := halive'.passed_begins hle fun hcurrent => (hlast hcurrent).2.1
  rw [hpassed] at hpre
  have hwhole : entry.isEnd = true → ledger'.passed calls.length = wire.body := by
    intro hend
    have hnoBody : ledger'.hasBody calls.length = false := by
      simpa [Http11ServerConnection.readResult, hend] using hbody.symm
    obtain ⟨wire', hwire', hwhole⟩ := halive'.passed_of_not_hasBody hle hnoBody
    obtain rfl : wire = wire' := Option.some.inj (hwire.symm.trans hwire')
    exact hwhole
  rw [hpassed] at hwhole
  refine ⟨?_, ?_, ?_, ?_, hsettled.idMismatch⟩
  · rw [hafter]
    apply hsettled.lastCall hcalls
    obtain ⟨wire', hwire', hrequest, -, hended⟩ := hsettled.calls calls.length call (by simp [hcalls])
    obtain rfl : wire = wire' := Option.some.inj (hwire.symm.trans hwire')
    refine ⟨wire, hwire, hrequest, hpre, fun hendedOr => ?_⟩
    obtain hended' | hend := Bool.or_eq_true_iff.mp hendedOr
    · have hbody := hended hended'
      have hlength := hpre.length_le
      simp only [List.flatten_append, List.flatten_singleton, hbody, List.length_append] at hlength
      have hnil : entry.buffer = [] := List.length_eq_zero_iff.mp (by omega)
      simp [hbody, hnil]
    · exact hwhole hend
  · intro _ hconsumed'
    have hend : entry.isEnd = true := by
      simpa [Http11ServerConnection.readResult, hconsumed] using hconsumed'
    exact ⟨calls, _, wire, hafter, hwire, hwhole hend⟩
  · simp [Http11ServerConnection.readResult]
  · simp [Http11ServerConnection.readResult]

/-- The reply loop moves on without touching the calls or the queues. It may
    leave a call behind once the request body is consumed. -/
theorem Alive.move (halive : Alive requests self current ledger) (reply : ReplySide)
    (point : ReplyPoint) (detectTimeoutFlag : Bool)
    (hid : reply.replyLoopData.requestId = self.reply.replyLoopData.requestId)
    (hconsumed : reply.replyLoopData.requestBodyConsumed = self.reply.replyLoopData.requestBodyConsumed)
    (henter : processing { self with replyPoint := point } → self.processing)
    (hleave : self.processing ∨ self.replyPoint = .failed →
      (processing { self with replyPoint := point } ∨ point = .failed) ∨
        (self.processing ∧ self.reply.replyLoopData.requestBodyConsumed = true)) :
    Alive requests { self with reply, replyPoint := point, detectTimeoutFlag } current ledger := by
  obtain ⟨hreceiving, hqueued, hreplying⟩ := halive
  refine ⟨{ hreceiving with }, { hqueued with }, { hreplying with handled := ?_, lastCall := ?_ }⟩
  · intro index hlt hbody
    obtain ⟨hpoint, hlast⟩ := hreplying.handled index hlt hbody
    obtain hstay | ⟨hprocessing, hdone⟩ := hleave hpoint
    · exact ⟨hstay, hlast⟩
    · obtain ⟨calls, call, hcalls, -, -, hnoBody⟩ := hreplying.lastCall hprocessing
      have hindex : index = calls.length := by simpa [hcalls] using hlast
      rw [hdone, ← hindex, hbody] at hnoBody
      cases hnoBody
  · intro hprocessing
    obtain ⟨calls, call, hcalls, hpassed, hrequestId, hbody⟩ := hreplying.lastCall (henter hprocessing)
    exact ⟨calls, call, hcalls, hpassed, hid.trans hrequestId, hconsumed.trans hbody⟩

/-- A shut down connection keeps what its calls were given. -/
theorem Settled.shutdown (hsettled : Settled requests self) : Settled requests self.shutdown := by
  obtain ⟨hcalls, hreply, hpoint, hmismatch⟩ := self.shutdown_frame
  exact hsettled.of_frame hcalls hpoint (by rw [hreply]) hmismatch

theorem Alive.invariant (hsettled : Settled requests self) (halive : Alive requests self current ledger) :
    Invariant requests self :=
  ⟨hsettled, .inr ⟨current, ledger, halive⟩⟩

/-- A pop of the request queue between two calls keeps the invariant. -/
theorem Alive.popRequest {entry : RequestEntry} {requestQueue : BoundedQueue RequestEntry}
    (hsettled : Settled requests self) (halive : Alive requests self current ledger)
    (hpoint : self.replyPoint = .loop ∨ self.replyPoint = .popping)
    (hpop : self.requestQueue.popEventually = .ready (entry, requestQueue)) :
    Invariant requests ({ self with requestQueue }.handleRequest entry) := by
  have hidle : ¬self.processing := by
    obtain hpoint | hpoint := hpoint <;> simp [processing, hpoint]
  have hfailed : self.replyPoint ≠ .failed := by
    obtain hpoint | hpoint := hpoint <;> simp [hpoint]
  exact (halive.handleRequest hidle hfailed hpop).invariant (hsettled.handleRequest halive hpop)

theorem Alive.replyStep {after : Http11ServerConnection} {result : SendResult}
    (hsettled : Settled requests self) (halive : Alive requests self current ledger)
    (hstep : self.replyStep result = some after) : Invariant requests after := by
  unfold Http11ServerConnection.replyStep at hstep
  have hopen := halive.queued.requestQueue_open
  have hbodyOpen := halive.queued.requestBodyQueue_open
  cases hpoint : self.replyPoint with
  | idle => simp [hpoint] at hstep
  | handling => simp [hpoint] at hstep
  | done => simp [hpoint] at hstep
  | loop =>
    simp only [hpoint, replyResponseLoop, halive.state_ne, if_false, Option.some.injEq] at hstep
    cases hpop : self.requestQueue.popEventually with
    | ready popped =>
      simp only [hpop] at hstep
      exact hstep ▸ halive.popRequest hsettled (.inl hpoint) hpop
    | failed => exact absurd hpop (BoundedQueue.popEventually_ne_failed hopen)
    | pending =>
      simp only [hpop] at hstep
      have halive' := halive.move self.reply .popping self.detectTimeoutFlag rfl rfl
        (by simp [processing]) (by simp [processing, hpoint])
      exact hstep ▸ halive'.invariant
        (hsettled.of_not_processing rfl (by simp [processing]) rfl)
  | popping =>
    cases hpop : self.requestQueue.popEventually with
    | ready popped =>
      simp only [hpoint, hpop, Option.some.injEq] at hstep
      exact hstep ▸ halive.popRequest hsettled (.inr hpoint) hpop
    | failed => exact absurd hpop (BoundedQueue.popEventually_ne_failed hopen)
    | pending => simp [hpoint, hpop] at hstep
  | readingBody =>
    have hconsumed := hsettled.reading hpoint
    have hprocessing : self.processing := .inr (.inl hpoint)
    cases hpop : self.requestBodyQueue.popEventually with
    | ready popped =>
      simp only [hpoint, hpop, Option.some.injEq] at hstep
      obtain ⟨ledger', halive'⟩ := halive.handleBodyEntry hprocessing hconsumed hpop
      exact hstep ▸ halive'.invariant (hsettled.handleBodyEntry halive hprocessing hconsumed hpop)
    | failed => exact absurd hpop (BoundedQueue.popEventually_ne_failed hbodyOpen)
    | pending => simp [hpoint, hpop] at hstep
  | flushing =>
    have hprocessing : self.processing := .inr (.inr hpoint)
    have hfailed : Invariant requests { self with replyPoint := .failed } :=
      (halive.move self.reply .failed self.detectTimeoutFlag rfl rfl (by simp [processing])
        (by simp)).invariant (hsettled.of_not_processing rfl (by simp [processing]) rfl)
    simp only [hpoint] at hstep
    split at hstep
    · rename_i hkeep
      split at hstep
      · exact Option.some.inj hstep ▸ hfailed
      · have halive' := halive.move self.reply .loop self.detectTimeoutFlag rfl rfl
          (by simp [processing]) (fun _ => .inr ⟨hprocessing, hsettled.flushing hpoint hkeep⟩)
        exact Option.some.inj hstep ▸ halive'.invariant
          (hsettled.of_not_processing rfl (by simp [processing]) rfl)
    · split at hstep
      · obtain ⟨hcalls, -, -, hmismatch⟩ := self.shutdown_frame
        exact Option.some.inj hstep ▸
          ⟨hsettled.of_not_processing hcalls (by simp [processing]) hmismatch,
            .inl (shutdown_aborted halive.state_ne)⟩
      · exact Option.some.inj hstep ▸ hfailed
  | failed =>
    simp only [hpoint, Option.some.injEq] at hstep
    obtain ⟨hcalls, -, -, hmismatch⟩ := self.shutdown_frame
    exact hstep ▸ ⟨hsettled.of_not_processing hcalls (by simp [processing]) hmismatch,
      .inl (shutdown_aborted halive.state_ne)⟩

/-- A step of the running handler keeps the invariant. -/
theorem Alive.handlerStep {after : Http11ServerConnection} {action : HandlerAction}
    (hsettled : Settled requests self) (halive : Alive requests self current ledger)
    (hstep : self.handlerStep action = some after) : Invariant requests after := by
  have hbodyOpen := halive.queued.requestBodyQueue_open
  unfold Http11ServerConnection.handlerStep at hstep
  split at hstep
  · rename_i hpoint
    have hprocessing : self.processing := .inl hpoint
    cases action with
    | read =>
      simp only [Option.some.injEq, Http11ServerConnection.read] at hstep
      split at hstep
      · rename_i hconsumed
        exact hstep ▸ (halive.readResult hprocessing).invariant (hsettled.readResult hprocessing hconsumed)
      · rename_i hconsumed
        simp only [Bool.not_eq_true] at hconsumed
        cases hpop : self.requestBodyQueue.popEventually with
        | ready popped =>
          simp only [hpop] at hstep
          obtain ⟨ledger', halive'⟩ := halive.handleBodyEntry hprocessing hconsumed hpop
          exact hstep ▸ halive'.invariant (hsettled.handleBodyEntry halive hprocessing hconsumed hpop)
        | failed => exact absurd hpop (BoundedQueue.popEventually_ne_failed hbodyOpen)
        | pending =>
          simp only [hpop] at hstep
          have halive' := halive.move self.reply .readingBody self.detectTimeoutFlag rfl rfl
            (fun _ => hprocessing) (fun _ => .inl (.inl (.inr (.inl rfl))))
          exact hstep ▸ halive'.invariant
            (hsettled.of_processing hprocessing rfl rfl (by simp) (fun _ => hconsumed) rfl)
    | modify change =>
      have halive' := halive.move { self.reply with
        processingContext := change self.reply.processingContext } .handling self.detectTimeoutFlag rfl rfl
        (fun _ => hprocessing) (fun _ => .inl (.inl (.inl rfl)))
      rw [← hpoint] at halive'
      exact Option.some.inj hstep ▸ halive'.invariant (hsettled.of_frame rfl rfl rfl rfl)
    | write data now =>
      obtain ⟨hid, hconsumed⟩ := write_frame self.reply data now
      have halive' := halive.move (cpv.write self.reply data now) .handling false hid hconsumed
        (fun _ => hprocessing) (fun _ => .inl (.inl (.inl rfl)))
      rw [← hpoint] at halive'
      exact Option.some.inj hstep ▸ halive'.invariant
        (hsettled.of_processing hprocessing rfl hconsumed (by simp [hpoint]) (by simp [hpoint]) rfl)
    | finish now =>
      obtain ⟨hid, hconsumed⟩ := finishResponse_frame self.reply now
      have halive' := halive.move (finishResponse self.reply now) .flushing false hid hconsumed
        (fun _ => hprocessing) (fun _ => .inl (.inl (.inr (.inr rfl))))
      exact Option.some.inj hstep ▸ halive'.invariant
        (hsettled.of_processing hprocessing rfl hconsumed (fun _ => finishResponse_keepConnection) (by simp) rfl)
    | throw =>
      have halive' := halive.move self.reply .failed self.detectTimeoutFlag rfl rfl
        (by simp [processing]) (by simp)
      exact Option.some.inj hstep ▸ halive'.invariant
        (hsettled.of_not_processing rfl (by simp [processing]) rfl)
  · cases hstep

end cpv.Http11ServerConnection
