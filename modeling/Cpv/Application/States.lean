import Mathlib.Data.List.Chain

namespace cpv

/-- State of an application, used to invoke the modules' handlers. -/
inductive ApplicationState where
  | StartInitialize
  | RegisterBasicServices
  | BeforeCallCustomInitializeFunctions
  | CallingCustomIntializeFunctions
  | AfterCustomInitializeFunctionsCalled
  | RegisterHeadServices
  | RegisterServices
  | RegisterTailServices
  | PatchServices
  | AfterServicesRegistered
  | AfterInitialized
  | BeforeStart
  | Starting
  | AfterStarted
  | BeforeTemporaryStop
  | TemporaryStopping
  | AfterTemporaryStopped
  | BeforeStop
  | Stopping
  | AfterStopped
  deriving DecidableEq, Repr

namespace ApplicationState

/-- The states a module may see after a state, as documented. No handler is
    invoked for the dummy state `CallingCustomIntializeFunctions`. -/
def next : ApplicationState → List ApplicationState
  | StartInitialize => [RegisterBasicServices]
  | RegisterBasicServices => [BeforeCallCustomInitializeFunctions]
  | BeforeCallCustomInitializeFunctions => [AfterCustomInitializeFunctionsCalled]
  | CallingCustomIntializeFunctions => []
  | AfterCustomInitializeFunctionsCalled => [RegisterHeadServices]
  | RegisterHeadServices => [RegisterServices]
  | RegisterServices => [RegisterTailServices]
  | RegisterTailServices => [PatchServices]
  | PatchServices => [AfterServicesRegistered]
  | AfterServicesRegistered => [AfterInitialized]
  | AfterInitialized => [BeforeStart]
  | BeforeStart => [Starting]
  | Starting => [AfterStarted]
  | AfterStarted => [BeforeTemporaryStop, BeforeStop]
  | BeforeTemporaryStop => [TemporaryStopping]
  | TemporaryStopping => [AfterTemporaryStopped]
  | AfterTemporaryStopped => [BeforeStart, BeforeStop]
  | BeforeStop => [Stopping]
  | Stopping => [AfterStopped]
  | AfterStopped => []

end ApplicationState

/-- A path of the documented life cycle: it begins with the first initialize
    state, and each state is one that may come after the state before it. -/
structure LifeCyclePath (path : List ApplicationState) : Prop where
  starts : ∀ state ∈ path.head?, state = .StartInitialize
  follows : path.IsChain fun state after => after ∈ state.next

instance (path : List ApplicationState) : Decidable (LifeCyclePath path) :=
  decidable_of_iff ((∀ state ∈ path.head?, state = .StartInitialize) ∧
    path.IsChain fun state after => after ∈ state.next) ⟨fun h => ⟨h.1, h.2⟩, fun h => ⟨h.starts, h.follows⟩⟩

theorem LifeCyclePath.nil : LifeCyclePath [] :=
  ⟨by simp, List.isChain_nil⟩

/-- A path goes on with any state that may come after its last one. -/
theorem LifeCyclePath.concat {path : List ApplicationState} {last state : ApplicationState}
    (hpath : LifeCyclePath path) (hlast : path.getLast? = some last) (hnext : state ∈ last.next) :
    LifeCyclePath (path ++ [state]) where
  starts := by
    have hsome : path ≠ [] := by rintro rfl; cases hlast
    rw [List.head?_append_of_ne_nil _ hsome]
    exact hpath.starts
  follows := by
    apply hpath.follows.append (List.isChain_singleton state)
    intro before hbefore after hafter
    obtain rfl : last = before := by simpa [hlast] using hbefore
    obtain rfl : state = after := by simpa using hafter
    exact hnext

theorem LifeCyclePath.of_append {path rest : List ApplicationState} (hpath : LifeCyclePath (path ++ rest)) :
    LifeCyclePath path where
  starts state hstate := by
    apply hpath.starts
    rw [List.head?_append]
    simp only [Option.mem_def] at hstate ⊢
    rw [hstate]
    rfl
  follows := hpath.follows.left_of_append

end cpv
