import Cpv.Application.Model

namespace cpv

/-- The states a module on a core has been called with so far, or has completed. -/
def statesSeen (kind : HandlerEventKind) (trace : List HandlerEvent) (core module : Nat) :
    List ApplicationState :=
  (trace.filter fun event => event.kind = kind && event.core = core && event.module = module).map (·.state)

@[simp]
theorem statesSeen_append (kind : HandlerEventKind) (first second : List HandlerEvent) (core module : Nat) :
    statesSeen kind (first ++ second) core module =
      statesSeen kind first core module ++ statesSeen kind second core module := by
  simp [statesSeen]

/-- What the events of one module add to what the modules have seen. -/
theorem statesSeen_events (work : CoreWork) (kind kind' : HandlerEventKind) (call core core' module module' : Nat) :
    statesSeen kind (work.events kind' call core' module') core module =
      if kind' = kind ∧ core' = core ∧ module' = module then work.states else [] := by
  unfold CoreWork.events
  generalize work.states = states
  induction states with
  | nil => simp [statesSeen]
  | cons state states ih =>
    rw [List.map_cons, ← List.singleton_append, statesSeen_append, ih]
    split
    · rename_i hsame
      obtain ⟨rfl, rfl, rfl⟩ := hsame
      simp [statesSeen]
    · rename_i hother
      simpa [statesSeen] using hother

/-- A handler is invoked when it is the module's turn: on its core every module
    added before it has completed the state, no module added after it has been
    called with it, and every module on every core has completed the states
    before it. -/
structure InTurn (cores modules : Nat) (before : List HandlerEvent) (event : HandlerEvent) : Prop where
  earlier : ∀ module < event.module, statesSeen .completed before event.core module =
    statesSeen .invoked before event.core event.module ++ [event.state]
  later : ∀ module < modules, event.module < module → statesSeen .invoked before event.core module =
    statesSeen .invoked before event.core event.module
  barrier : ∀ core < cores, ∀ module < modules,
    statesSeen .invoked before event.core event.module <+: statesSeen .completed before core module

/-- The handlers of the modules are invoked along the documented life cycle, and
    none on behalf of a rejected call. -/
structure Application.FollowsLifeCycle (app : Application) : Prop where
  path : ∀ core < app.cores, ∀ module < app.modules,
    LifeCyclePath (statesSeen .invoked app.trace core module)
  inTurn : ∀ before event, before ++ [event] <+: app.trace → event.kind = .invoked →
    InTurn app.cores app.modules before event
  rejected : ∀ event ∈ app.trace, app.calls[event.call]? ≠ some (.resolved .rejected)

/-- The modules called so far in a phase. -/
def CoreProgress.invoked : CoreProgress → Nat
  | ready finished => finished
  | running finished => finished + 1
  | failed finished => finished + 1

/-- The modules that have completed their handler in a phase. -/
def CoreProgress.completed : CoreProgress → Nat
  | ready finished => finished
  | running finished => finished
  | failed finished => finished

def CoreProgress.count : HandlerEventKind → CoreProgress → Nat
  | .invoked => CoreProgress.invoked
  | .completed => CoreProgress.completed

/-- Every module on every core has seen the path and no more. -/
def SeenPath (cores modules : Nat) (trace : List HandlerEvent) (path : List ApplicationState) : Prop :=
  ∀ kind, ∀ core < cores, ∀ module < modules, statesSeen kind trace core module = path

/-- Beyond the path, the modules have seen what the progress of the phase says. -/
def SeenPhase (cores modules : Nat) (trace : List HandlerEvent) (path : List ApplicationState)
    (phase : Phase) : Prop :=
  ∀ kind, ∀ core < cores, ∀ module < modules, statesSeen kind trace core module =
    path ++ if module < (phase.progress core).count kind then phase.work.states else []

variable {cores modules : Nat} {trace : List HandlerEvent} {path : List ApplicationState}

theorem SeenPath.start (hseen : SeenPath cores modules trace path) (work : CoreWork) :
    SeenPhase cores modules trace path (Phase.start work) := by
  intro kind core hcore module hmodule
  rw [hseen kind core hcore module hmodule, if_neg, List.append_nil]
  cases kind <;> exact Nat.not_lt_zero module

/-- Work calls no module, or all of them with one state. -/
theorem CoreWork.states_cases (work : CoreWork) (modules : Nat) :
    work.states = [] ∨ ∃ state, work.states = [state] ∧ work.units modules = modules := by
  cases work <;> simp [states, units]

theorem SeenPhase.done {phase : Phase} (hseen : SeenPhase cores modules trace path phase)
    (hdone : phase.IsDone cores modules) : SeenPath cores modules trace (path ++ phase.work.states) := by
  intro kind core hcore module hmodule
  rw [hseen kind core hcore module hmodule, hdone core hcore]
  obtain hstates | ⟨state, -, hunits⟩ := phase.work.states_cases modules
  · simp [hstates]
  · rw [if_pos]
    cases kind <;> simpa [CoreProgress.count, CoreProgress.invoked, CoreProgress.completed, hunits]

/-- An event takes one module of one core from the states before it to those
    after it. -/
theorem SeenPhase.advance {phase after : Phase} {kind : HandlerEventKind} {call core module : Nat}
    (hseen : SeenPhase cores modules trace path phase) (hwork : after.work = phase.work)
    (hothers : ∀ other, other ≠ core → after.progress other = phase.progress other)
    (hkind : (after.progress core).count kind = (phase.progress core).count kind + 1)
    (hmodule : (phase.progress core).count kind = module)
    (hkinds : ∀ other, other ≠ kind → (after.progress core).count other = (phase.progress core).count other) :
    SeenPhase cores modules (trace ++ phase.work.events kind call core module) path after := by
  intro kind' core' hcore' module' hmodule'
  rw [statesSeen_append, hseen kind' core' hcore' module' hmodule', statesSeen_events, hwork, List.append_assoc]
  congr 1
  by_cases hcore : core' = core
  · subst hcore
    by_cases hsame : kind' = kind
    · subst hsame
      rw [hkind, hmodule]
      grind
    · have hother : ¬ (kind = kind' ∧ core' = core' ∧ module = module') := fun h => hsame h.1.symm
      rw [hkinds kind' hsame, if_neg hother, List.append_nil]
  · have hother : ¬ (kind = kind' ∧ core = core' ∧ module = module') := fun h => hcore h.2.1.symm
    rw [hothers core' hcore, if_neg hother, List.append_nil]

/-- Where a phase goes on and no module sees anything. -/
theorem SeenPhase.congr {phase after : Phase} (hseen : SeenPhase cores modules trace path phase)
    (hwork : after.work = phase.work)
    (hcount : ∀ kind core, (after.progress core).count kind = (phase.progress core).count kind) :
    SeenPhase cores modules trace path after := by
  intro kind core hcore module hmodule
  rw [hseen kind core hcore module hmodule, hwork, hcount]

theorem Phase.invoke_spec {phase next : Phase} {core module : Nat}
    (hinvoke : phase.invoke modules core = some (module, next)) :
    phase.progress core = .ready module ∧ module < phase.work.units modules ∧
      next = { phase with progress := Function.update phase.progress core (.running module) } := by
  unfold invoke at hinvoke
  split at hinvoke
  · split at hinvoke
    · rename_i hprogress hunits
      obtain ⟨rfl, rfl⟩ : _ = module ∧ _ = next := by simpa using hinvoke
      exact ⟨hprogress, hunits, rfl⟩
    · cases hinvoke
  · cases hinvoke

theorem Phase.complete_spec {phase next : Phase} {core module : Nat} {succeeds : Bool}
    (hcomplete : phase.complete core succeeds = some (module, next)) :
    phase.progress core = .running module ∧ next = { phase with
      progress := Function.update phase.progress core (if succeeds then .ready (module + 1) else .failed module) } := by
  unfold complete at hcomplete
  split at hcomplete
  · rename_i hprogress
    obtain ⟨rfl, rfl⟩ : _ = module ∧ _ = next := by simpa using hcomplete
    exact ⟨hprogress, rfl⟩
  · cases hcomplete

/-- The handler that a phase invokes next is the one of the module whose turn it is. -/
theorem SeenPhase.inTurn {phase : Phase} (hseen : SeenPhase cores modules trace path phase)
    {core module : Nat} (hcore : core < cores) (hprogress : phase.progress core = .ready module)
    (hmodule : module < modules) {state : ApplicationState} (hstate : phase.work.states = [state])
    (call : Nat) : InTurn cores modules trace { kind := .invoked, call, core, module, state } := by
  have hinvoked : statesSeen .invoked trace core module = path := by
    rw [hseen .invoked core hcore module hmodule, hprogress]
    simp [CoreProgress.count, CoreProgress.invoked]
  refine ⟨fun earlier hearlier => ?_, fun later hlater hafter => ?_, fun other hother module' hmodule' => ?_⟩
  · have hcompleted : earlier < (phase.progress core).count .completed := by rw [hprogress]; exact hearlier
    rw [hseen .completed core hcore earlier (hearlier.trans hmodule), if_pos hcompleted, hinvoked, hstate]
  · have hnot : ¬ later < (phase.progress core).count .invoked := by
      rw [hprogress]
      exact hafter.not_gt
    rw [hseen .invoked core hcore later hlater, if_neg hnot, hinvoked, List.append_nil]
  · rw [hinvoked, hseen .completed other hother module' hmodule']
    exact List.prefix_append _ _

end cpv
