import Mathlib
import Cpv.Application.States

namespace cpv

/-- What `invoke_on_all` runs on every core. -/
inductive CoreWork where
  | startShards
  | createModules
  | callInitializeFunctions
  | handle (state : ApplicationState)
  | stopShards
  deriving DecidableEq

/-- The steps a core takes, one after another: one for each module, where the
    handlers of the modules are called. -/
def CoreWork.units (modules : Nat) : CoreWork → Nat
  | handle _ => modules
  | _ => 1

/-- The states the modules are called with. -/
def CoreWork.states : CoreWork → List ApplicationState
  | handle state => [state]
  | _ => []

/-- How far a core is: it has finished some of its steps, and the next one is
    still to come, waits for a future, or has failed. -/
inductive CoreProgress where
  | ready (finished : Nat)
  | running (finished : Nat)
  | failed (finished : Nat)
  deriving DecidableEq

/-- No step of the core is left. After a failure the others are not taken. -/
def CoreProgress.isOver (units : Nat) : CoreProgress → Bool
  | ready finished => finished = units
  | running _ => false
  | failed _ => true

/-- Work in progress on the cores, each of which goes at its own pace. -/
structure Phase where
  work : CoreWork
  progress : Nat → CoreProgress

def Phase.start (work : CoreWork) : Phase := { work, progress := fun _ => .ready 0 }

def Phase.IsOver (phase : Phase) (cores modules : Nat) : Prop :=
  ∀ core < cores, (phase.progress core).isOver (phase.work.units modules) = true

/-- All cores are over and none has failed. -/
def Phase.IsDone (phase : Phase) (cores modules : Nat) : Prop :=
  ∀ core < cores, phase.progress core = .ready (phase.work.units modules)

instance (phase : Phase) (cores modules : Nat) : Decidable (phase.IsOver cores modules) :=
  inferInstanceAs (Decidable (∀ core < cores, _))

instance (phase : Phase) (cores modules : Nat) : Decidable (phase.IsDone cores modules) :=
  inferInstanceAs (Decidable (∀ core < cores, _))

/-- The next module of a core that has one left, and the phase once its handler
    has been invoked. -/
def Phase.invoke (phase : Phase) (modules core : Nat) : Option (Nat × Phase) :=
  match phase.progress core with
  | .ready finished =>
    if finished < phase.work.units modules then
      some (finished, { phase with progress := Function.update phase.progress core (.running finished) })
    else none
  | _ => none

/-- The future of the running handler resolves. -/
def Phase.complete (phase : Phase) (core : Nat) (succeeds : Bool) : Option (Nat × Phase) :=
  match phase.progress core with
  | .running finished =>
    let after := if succeeds then .ready (finished + 1) else .failed finished
    some (finished, { phase with progress := Function.update phase.progress core after })
  | _ => none

/-- What is chained with `then` to the futures of the application's calls. -/
inductive Continuation where
  | createModules
  | updateState (state : ApplicationState)
  | callInitializeFunctions
  | startImpl
  | stop
  deriving DecidableEq

inductive CallOutcome where
  | completed
  /-- The check of the application's state has failed. -/
  | rejected
  /-- A handler has failed, or the application's shards are gone. -/
  | failed
  deriving DecidableEq

/-- A call of `start`, `stopTemporary` or `stop`: the future it waits for is
    ready, or is that of a phase, or the call's own future is resolved. -/
inductive Call where
  | ready (rest : List Continuation)
  | waiting (phase : Phase) (rest : List Continuation)
  | resolved (outcome : CallOutcome)

/-- Members of Application, with whether `shardData_` is set. -/
structure ApplicationData where
  state : ApplicationState := .StartInitialize
  shardData : Bool := false
  deriving DecidableEq

namespace ApplicationData

/-- `getShardData` throws where there are no shards. -/
def invokeOnAll (data : ApplicationData) (work : CoreWork) (rest : List Continuation) : Call :=
  if data.shardData then .waiting (Phase.start work) rest else .resolved .failed

/-- Update state and invoke handle function of modules on all cpu cores. -/
def updateState (data : ApplicationData) (state : ApplicationState) (rest : List Continuation) :
    ApplicationData × Call :=
  let data := { data with state }
  (data, data.invokeOnAll (.handle state) rest)

/-- What is chained to the start of the shards. -/
def initializeChain : List Continuation :=
  [.createModules, .updateState .StartInitialize, .updateState .RegisterBasicServices,
    .updateState .BeforeCallCustomInitializeFunctions, .callInitializeFunctions,
    .updateState .AfterCustomInitializeFunctionsCalled, .updateState .RegisterHeadServices,
    .updateState .RegisterServices, .updateState .RegisterTailServices, .updateState .PatchServices,
    .updateState .AfterServicesRegistered, .updateState .AfterInitialized]

/-- Ensure modules on all cpu cores are created and initialized. The shards are
    created once; `createShardData` throws the second time. -/
def ensureInitialized (data : ApplicationData) (rest : List Continuation) : ApplicationData × Call :=
  if data.state ≠ .StartInitialize then (data, .ready rest)
  else if data.shardData then (data, .resolved .rejected)
  else ({ data with shardData := true }, .waiting (Phase.start .startShards) (initializeChain ++ rest))

/-- The check at the beginning of `startImpl`. -/
def canStart (data : ApplicationData) : Bool :=
  data.state = .AfterInitialized || data.state = .AfterTemporaryStopped

/-- Start application. -/
def startImpl (data : ApplicationData) : ApplicationData × Call :=
  if data.canStart then data.updateState .BeforeStart [.updateState .Starting, .updateState .AfterStarted]
  else (data, .resolved .rejected)

/-- The check at the beginning of `stopTemporaryImpl`. -/
def canStopTemporary (data : ApplicationData) : Bool :=
  data.state = .AfterStarted

/-- Stop application temporary. -/
def stopTemporaryImpl (data : ApplicationData) : ApplicationData × Call :=
  if data.canStopTemporary then
    data.updateState .BeforeTemporaryStop [.updateState .TemporaryStopping, .updateState .AfterTemporaryStopped]
  else (data, .resolved .rejected)

/-- The check at the beginning of `stopImpl`. -/
def canStop (data : ApplicationData) : Bool :=
  data.state = .AfterStarted || data.state = .AfterTemporaryStopped

/-- Stop application permanently. -/
def stopImpl (data : ApplicationData) : ApplicationData × Call :=
  if data.canStop then data.updateState .BeforeStop [.updateState .Stopping, .updateState .AfterStopped, .stop]
  else (data, .resolved .rejected)

/-- Destruct modules on all cpu cores. The shards are moved out of the members
    before they stop. -/
def stop (data : ApplicationData) (rest : List Continuation) : ApplicationData × Call :=
  ({ data with shardData := false }, data.invokeOnAll .stopShards rest)

/-- Run what is chained to a future that is ready. -/
def runChain (data : ApplicationData) : List Continuation → ApplicationData × Call
  | [] => (data, .resolved .completed)
  | .createModules :: rest => (data, data.invokeOnAll .createModules rest)
  | .updateState state :: rest => data.updateState state rest
  | .callInitializeFunctions :: rest =>
    let data := { data with state := .CallingCustomIntializeFunctions }
    (data, data.invokeOnAll .callInitializeFunctions rest)
  | .startImpl :: _ => data.startImpl
  | .stop :: rest => data.stop rest

end ApplicationData

inductive ApplicationCall where
  | start
  | stopTemporary
  | stop
  deriving DecidableEq

def ApplicationCall.run (data : ApplicationData) : ApplicationCall → ApplicationData × Call
  | start => data.ensureInitialized [.startImpl]
  | stopTemporary => data.stopTemporaryImpl
  | stop => data.stopImpl

inductive HandlerEventKind where
  | invoked
  | completed
  deriving DecidableEq

/-- A module's handler is invoked for a state on a core, or its future has
    become ready, on behalf of a call of the application. -/
structure HandlerEvent where
  kind : HandlerEventKind
  call : Nat
  core : Nat
  module : Nat
  state : ApplicationState
  deriving DecidableEq

/-- What the modules see when the handler of one of them is invoked or completes. -/
def CoreWork.events (work : CoreWork) (kind : HandlerEventKind) (call core module : Nat) : List HandlerEvent :=
  work.states.map fun state => { kind, call, core, module, state }

/-- An application with the modules added before its first start, the calls made
    so far and what the modules have seen. -/
structure Application where
  cores : Nat
  modules : Nat
  data : ApplicationData := {}
  calls : List Call := []
  trace : List HandlerEvent := []

inductive ApplicationLabel where
  | call (call : ApplicationCall)
  /-- Run what is chained to the future a call waits for. -/
  | resume (call : Nat)
  | invoke (call core : Nat)
  | complete (call core : Nat) (succeeds : Bool)
  deriving DecidableEq

namespace Application

def resumeCall (app : Application) : Call → Option (ApplicationData × Call)
  | .ready rest => some (app.data.runChain rest)
  | .waiting phase rest =>
    if phase.IsDone app.cores app.modules then some (app.data.runChain rest)
    else if phase.IsOver app.cores app.modules then some (app.data, .resolved .failed)
    else none
  | .resolved _ => none

/-- The phase of a call goes on, and the modules see the events. -/
def advance (app : Application) (index : Nat) (phase : Phase) (rest : List Continuation)
    (events : List HandlerEvent) : Application :=
  { app with calls := app.calls.set index (.waiting phase rest), trace := app.trace ++ events }

/-- One step of the application. Calls may be made at any time, and whatever is
    pending may go on in any order. -/
def step (app : Application) : ApplicationLabel → Option Application
  | .call call =>
    let (data, next) := call.run app.data
    some { app with data, calls := app.calls ++ [next] }
  | .resume index => do
    let call ← app.calls[index]?
    let (data, next) ← app.resumeCall call
    some { app with data, calls := app.calls.set index next }
  | .invoke index core =>
    match app.calls[index]? with
    | some (.waiting phase rest) => do
      guard (core < app.cores)
      let (module, next) ← phase.invoke app.modules core
      some (app.advance index next rest (phase.work.events .invoked index core module))
    | _ => none
  | .complete index core succeeds =>
    match app.calls[index]? with
    | some (.waiting phase rest) => do
      guard (core < app.cores)
      let (module, next) ← phase.complete core succeeds
      some (app.advance index next rest
        (if succeeds then phase.work.events .completed index core module else []))
    | _ => none

end Application

end cpv
