import Mathlib.Data.Finset.Card
import Cpv.Core.Machine
import Cpv.Connection.Model

namespace cpv

/-- A call of `HttpServer::stop`: it waits for the listeners, and then for the
    connections it has stopped. -/
inductive StopCall where
  | listeners
  | connections (remain : Finset Nat)
  | done

/-- A server with every connection it has accepted, by number, and the numbers
    in `connectionsWrapper->value`. The accept loops run while `accepting`. -/
structure HttpServer where
  configuration : HttpServerConfiguration
  connections : List Http11ServerConnection := []
  value : Finset Nat := ∅
  total_connections : Nat := 0
  current_connections : Nat := 0
  accepting : Bool := false
  aborted : Bool := false
  timerArmed : Bool := false
  stops : List StopCall := []

/-- What happens next to a server. An accepted connection comes with the steps
    its loops take before `start` returns, since a continuation may run at once
    when its future is ready. -/
inductive ServerLabel where
  | start
  | accept (socketIn : List (List ParserToken)) (immediate : List Http11ServerConnection.Label)
  | connection (index : Nat) (label : Http11ServerConnection.Label)
  | tick
  | stop
  | listenersStopped
  | closeConnections (call : Nat)
  /-- A connection's `stop` finds it closed. -/
  | connectionStopped (call index : Nat)
  | stopped (call : Nat)

namespace Http11ServerConnection

/-- The timer and a stopping server shut a connection down, not its own loops. -/
def Label.isOwn : Label → Bool
  | .shutdown => false
  | _ => true

def Label.isClose : Label → Bool
  | .close => true
  | _ => false

end Http11ServerConnection

namespace HttpServer

/-- A step of the connection's own loops. The continuation of both removes it
    from the collection. -/
def connectionStep (index : Nat) (server : HttpServer) (label : Http11ServerConnection.Label) : Option HttpServer := do
  guard label.isOwn
  let connection ← server.connections[index]?
  let next ← connection.step label
  let server := { server with connections := server.connections.set index next }
  if label.isClose then
    let value := server.value.erase index
    some { server with value, current_connections := value.card }
  else some server

/-- The continuation of `accept`: start the connection, and then put it into the
    collection. -/
def accept (server : HttpServer) (socketIn : List (List ParserToken))
    (immediate : List Http11ServerConnection.Label) : Option HttpServer := do
  let index := server.connections.length
  let connection ← (Http11ServerConnection.new server.configuration socketIn).start
  let server ← Machine.run (connectionStep index) { server with
    connections := server.connections ++ [connection] } immediate
  let value := insert index server.value
  some { server with
    value
    total_connections := server.total_connections + 1
    current_connections := value.card }

/-- Apply a function to the connections in the collection. -/
def forConnections (server : HttpServer) (change : Http11ServerConnection → Http11ServerConnection) : HttpServer :=
  { server with connections := server.connections.mapIdx fun index connection =>
    if index ∈ server.value then change connection else connection }

/-- The timer finds a connection that has not reset its flag since the last tick. -/
def detectTimeout (connection : Http11ServerConnection) : Http11ServerConnection :=
  if connection.detectTimeoutFlag then connection.onTimeout else { connection with detectTimeoutFlag := true }

def step (server : HttpServer) : ServerLabel → Option HttpServer
  | .start => some { server with accepting := true, aborted := false, timerArmed := true }
  | .accept socketIn immediate => if server.accepting then server.accept socketIn immediate else none
  | .connection index label => connectionStep index server label
  | .tick => if server.timerArmed then some (server.forConnections detectTimeout) else none
  | .stop => some { server with timerArmed := false, aborted := true, stops := server.stops ++ [.listeners] }
  | .listenersStopped => if server.aborted then some { server with accepting := false } else none
  | .closeConnections call =>
    match server.stops[call]?, server.accepting with
    | some .listeners, false => some { server.forConnections Http11ServerConnection.stop with
        stops := server.stops.set call (.connections server.value) }
    | _, _ => none
  | .connectionStopped call index =>
    match server.stops[call]?, server.connections[index]? with
    | some (.connections remain), some connection =>
      if connection.receive.state = .Closed then
        some { server with stops := server.stops.set call (.connections (remain.erase index)) }
      else none
    | _, _ => none
  | .stopped call =>
    match server.stops[call]? with
    | some (.connections remain) =>
      if remain = ∅ then
        some { server with value := ∅, current_connections := 0, stops := server.stops.set call .done }
      else none
    | _ => none

end HttpServer

end cpv
