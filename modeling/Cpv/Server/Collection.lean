import Cpv.Connection.Closed
import Cpv.Server.Model

namespace cpv

namespace HttpServer

/-- A connection the server has accepted is closed. -/
def Closed (server : HttpServer) (index : Nat) : Prop :=
  ∃ connection, server.connections[index]? = some connection ∧ connection.isClosed

/-- The collection holds no closed connection, and the metric tells its size. -/
structure CollectionValid (server : HttpServer) : Prop where
  not_closed : ∀ index ∈ server.value, ¬ server.Closed index
  current : server.current_connections = server.value.card

/-- An accepted connection does not end before `start` returns. -/
def OutlivesStart : ServerLabel → Prop
  | .accept _ immediate => ∀ label ∈ immediate, label.isClose = false
  | _ => True

/-- What holds of a server in every state it reaches. -/
structure Invariant (server : HttpServer) : Prop where
  valid : server.CollectionValid
  ended : ∀ (index : Nat) (connection : Http11ServerConnection), server.connections[index]? = some connection →
    connection.isClosed → connection.Ended

variable {server after : HttpServer}

/-- What a step of one of its connections leaves of a server. -/
structure ConnectionStep (server after : HttpServer) (index : Nat) (closes : Bool) : Prop where
  open_ : ¬ server.Closed index
  others : ∀ other ≠ index, after.connections[other]? = server.connections[other]?
  ended : ∀ connection, after.connections[index]? = some connection →
    connection.isClosed → closes = true ∧ connection.Ended
  value : after.value = if closes then server.value.erase index else server.value
  current : after.current_connections = if closes then after.value.card else server.current_connections

/-- A connection of a valid server that takes a step is not closed, and what it
    closes is no longer in the collection. -/
theorem connectionStep_spec {index : Nat} {label : Http11ServerConnection.Label}
    (hstep : connectionStep index server label = some after)
    (hended : ∀ connection, server.connections[index]? = some connection → connection.isClosed → connection.Ended) :
    ConnectionStep server after index label.isClose := by
  obtain ⟨hown, connection, hconnection, next, hnext, hafter⟩ : label.isOwn = true ∧ ∃ connection,
      server.connections[index]? = some connection ∧ ∃ next, connection.step label = some next ∧
        (if label.isClose then some { server with
            connections := server.connections.set index next
            value := server.value.erase index
            current_connections := (server.value.erase index).card }
          else some { server with connections := server.connections.set index next }) = some after := by
    simpa [connectionStep, guard, Option.bind_eq_some_iff] using hstep
  have hlabel : label ≠ .shutdown := by
    rintro rfl
    cases hown
  obtain ⟨hopen, hclosed⟩ := Http11ServerConnection.step_ended hlabel (hended connection hconnection) hnext
  have hconnections : after.connections = server.connections.set index next := by
    split at hafter <;> cases hafter <;> rfl
  refine ⟨?_, ?_, ?_, ?_, ?_⟩
  · rintro ⟨closed, hindex, hisClosed⟩
    obtain rfl : connection = closed := Option.some.inj (hconnection.symm.trans hindex)
    exact hopen hisClosed
  · intro other hother
    rw [hconnections, List.getElem?_set_ne (Ne.symm hother)]
  · intro connection' hindex hisClosed
    obtain rfl : next = connection' := by
      rw [hconnections] at hindex
      grind
    obtain ⟨rfl, hnextEnded⟩ := hclosed hisClosed
    exact ⟨rfl, hnextEnded⟩
  · cases hclose : label.isClose <;> rw [hclose] at hafter <;> cases hafter <;> rfl
  · cases hclose : label.isClose <;> rw [hclose] at hafter <;> cases hafter <;> rfl

/-- A valid server stays valid, and what is closed stays closed. -/
def Goes (server after : HttpServer) : Prop :=
  after.Invariant ∧ ∀ index, server.Closed index → after.Closed index

theorem Invariant.connectionStep (hinvariant : server.Invariant) {index : Nat}
    {label : Http11ServerConnection.Label} (hstep : connectionStep index server label = some after) :
    server.Goes after := by
  obtain ⟨hopen, hothers, hended, hvalue, hcurrent⟩ := connectionStep_spec hstep (hinvariant.ended index)
  have hclosed (other : Nat) (hother : other ≠ index) : after.Closed other ↔ server.Closed other := by
    unfold Closed
    rw [hothers other hother]
  refine ⟨⟨⟨fun other hmem hafter => ?_, ?_⟩, fun other connection hconnection hisClosed => ?_⟩, fun other hother => ?_⟩
  · by_cases hsame : other = index
    · -- only the step that closes it makes a connection closed
      subst hsame
      obtain ⟨connection, hconnection, hisClosed⟩ := hafter
      rw [hvalue, if_pos (hended connection hconnection hisClosed).1] at hmem
      exact Finset.notMem_erase other server.value hmem
    · apply hinvariant.valid.not_closed other _ ((hclosed other hsame).mp hafter)
      rw [hvalue] at hmem
      split at hmem
      · exact Finset.mem_of_mem_erase hmem
      · exact hmem
  · rw [hcurrent]
    split
    · rfl
    · rename_i hclose
      rw [hvalue, if_neg hclose, hinvariant.valid.current]
  · by_cases hsame : other = index
    · exact (hended connection (hsame ▸ hconnection) hisClosed).2
    · exact hinvariant.ended other connection (hothers other hsame ▸ hconnection) hisClosed
  · by_cases hsame : other = index
    · exact absurd (hsame ▸ hother) hopen
    · exact (hclosed other hsame).mpr hother

theorem start_not_closed {configuration : HttpServerConfiguration} {socketIn : List (List ParserToken)}
    {connection : Http11ServerConnection}
    (hstart : (Http11ServerConnection.new configuration socketIn).start = some connection) :
    ¬ connection.isClosed := by
  obtain rfl := Option.some.inj hstart
  rintro ⟨⟩

/-- A connection that outlives `start` is put into the collection open. -/
theorem Invariant.accept (hinvariant : server.Invariant) {socketIn : List (List ParserToken)}
    {immediate : List Http11ServerConnection.Label} (houtlives : ∀ label ∈ immediate, label.isClose = false)
    (haccept : server.accept socketIn immediate = some after) : server.Goes after := by
  obtain ⟨connection, hstart, ran, hrun, rfl⟩ : ∃ connection,
      (Http11ServerConnection.new server.configuration socketIn).start = some connection ∧ ∃ ran,
        Machine.run (HttpServer.connectionStep server.connections.length) { server with
          connections := server.connections ++ [connection] } immediate = some ran ∧
        { ran with
          value := insert server.connections.length ran.value
          total_connections := ran.total_connections + 1
          current_connections := (insert server.connections.length ran.value).card } = after := by
    simpa [HttpServer.accept, Option.bind_eq_some_iff] using haccept
  let Kept (next : HttpServer) : Prop := next.value = server.value ∧ ¬ next.Closed server.connections.length ∧
    ∀ other ≠ server.connections.length, next.connections[other]? = server.connections[other]?
  have hkept : Kept ran := by
    apply Machine.run_preserves_of_conforms _ (Machine.conforms_of_forall _ _ houtlives) hrun
    · refine ⟨rfl, ?_, fun other hother => ?_⟩
      · rintro ⟨closed, hindex, hisClosed⟩
        obtain rfl : connection = closed := by simpa using hindex
        exact start_not_closed hstart hisClosed
      · grind
    · rintro before label next hlabel hstep ⟨hvalue, hopen, hothers⟩
      obtain ⟨-, hothers', hended', hvalue', -⟩ := connectionStep_spec hstep fun connection hconnection hisClosed =>
        absurd ⟨connection, hconnection, hisClosed⟩ hopen
      simp only [hlabel, Bool.false_eq_true, if_false, false_and] at hvalue' hended'
      refine ⟨hvalue'.trans hvalue, ?_, fun other hother => (hothers' other hother).trans (hothers other hother)⟩
      rintro ⟨closed, hindex, hisClosed⟩
      exact hended' closed hindex hisClosed
  obtain ⟨hvalue, hopen, hothers⟩ := hkept
  have hclosed (other : Nat) : ran.Closed other ↔ server.Closed other := by
    by_cases hother : other = server.connections.length
    · subst hother
      refine iff_of_false hopen ?_
      rintro ⟨closed, hindex, -⟩
      simp at hindex
    · unfold Closed
      rw [hothers other hother]
  refine ⟨⟨⟨fun other hmem hafter => ?_, rfl⟩, fun other next hnext hisClosed => ?_⟩, fun other hother => ?_⟩
  · rw [hvalue] at hmem
    obtain rfl | hmem := Finset.mem_insert.mp hmem
    · exact hopen hafter
    · exact hinvariant.valid.not_closed other hmem ((hclosed other).mp hafter)
  · by_cases hother : other = server.connections.length
    · subst hother
      exact absurd ⟨next, hnext, hisClosed⟩ hopen
    · exact hinvariant.ended other next ((hothers other hother).symm.trans hnext) hisClosed
  · exact (hclosed other).mpr hother

/-- The timer and a stopping server only touch what is in the collection, and
    nothing there is closed. -/
theorem Invariant.forConnections (hinvariant : server.Invariant)
    {change : Http11ServerConnection → Http11ServerConnection}
    (hchange : ∀ connection, ¬ connection.isClosed → ¬ (change connection).isClosed) :
    server.Goes (server.forConnections change) := by
  have hopen (index : Nat) (hmem : index ∈ server.value) : ¬ (server.forConnections change).Closed index := by
    rintro ⟨connection, hconnection, hisClosed⟩
    simp only [HttpServer.forConnections, List.getElem?_mapIdx, hmem, if_true, Option.map_eq_some_iff] at hconnection
    obtain ⟨before, hbefore, rfl⟩ := hconnection
    exact hchange before (fun h => hinvariant.valid.not_closed index hmem ⟨before, hbefore, h⟩) hisClosed
  have hothers (index : Nat) (hmem : index ∉ server.value) :
      (server.forConnections change).connections[index]? = server.connections[index]? := by
    simp [HttpServer.forConnections, List.getElem?_mapIdx, hmem]
  refine ⟨⟨⟨hopen, hinvariant.valid.current⟩, fun index connection hconnection hisClosed => ?_⟩, fun index hclosed => ?_⟩
  · by_cases hmem : index ∈ server.value
    · exact absurd ⟨connection, hconnection, hisClosed⟩ (hopen index hmem)
    · exact hinvariant.ended index connection (hothers index hmem ▸ hconnection) hisClosed
  · by_cases hmem : index ∈ server.value
    · exact absurd hclosed (hinvariant.valid.not_closed index hmem)
    · unfold Closed
      rwa [hothers index hmem]

theorem detectTimeout_not_closed (connection : Http11ServerConnection) (hopen : ¬ connection.isClosed) :
    ¬ (detectTimeout connection).isClosed := by
  unfold detectTimeout
  split
  · exact connection.shutdown_not_closed
  · exact hopen

theorem Invariant.step (server : HttpServer) (label : ServerLabel) (after : HttpServer)
    (houtlives : OutlivesStart label) (hstep : server.step label = some after) (hinvariant : server.Invariant) :
    server.Goes after := by
  have hsame (accepting aborted timerArmed : Bool) (stops : List StopCall) :
      server.Goes { server with accepting, aborted, timerArmed, stops } :=
    ⟨⟨⟨hinvariant.valid.not_closed, hinvariant.valid.current⟩, hinvariant.ended⟩, fun _ => id⟩
  cases label with
  | start => exact Option.some.inj hstep ▸ hsame true false true server.stops
  | stop => exact Option.some.inj hstep ▸ hsame server.accepting true false (server.stops ++ [.listeners])
  | accept socketIn immediate =>
    simp only [HttpServer.step] at hstep
    split at hstep
    · exact hinvariant.accept houtlives hstep
    · cases hstep
  | connection index label => exact hinvariant.connectionStep hstep
  | tick =>
    simp only [HttpServer.step] at hstep
    split at hstep <;> cases hstep
    exact hinvariant.forConnections detectTimeout_not_closed
  | listenersStopped =>
    simp only [HttpServer.step] at hstep
    split at hstep <;> cases hstep
    exact hsame false server.aborted server.timerArmed server.stops
  | closeConnections call =>
    simp only [HttpServer.step] at hstep
    split at hstep <;> cases hstep
    obtain ⟨⟨⟨hopen, hcurrent⟩, hended⟩, hclosed⟩ := hinvariant.forConnections
      fun connection _ => connection.shutdown_not_closed
    exact ⟨⟨⟨hopen, hcurrent⟩, hended⟩, hclosed⟩
  | connectionStopped call index =>
    simp only [HttpServer.step] at hstep
    split at hstep
    · split at hstep <;> cases hstep
      exact hsame server.accepting server.aborted server.timerArmed _
    · cases hstep
  | stopped call =>
    simp only [HttpServer.step] at hstep
    split at hstep
    · split at hstep <;> cases hstep
      exact ⟨⟨⟨fun index hmem => absurd hmem (Finset.notMem_empty index), rfl⟩, hinvariant.ended⟩, fun _ => id⟩
    · cases hstep

theorem initial_invariant (configuration : HttpServerConfiguration) : Invariant { configuration } where
  valid := ⟨fun index hmem => absurd hmem (Finset.notMem_empty index), rfl⟩
  ended index connection hconnection := by simp at hconnection

end HttpServer

end cpv
