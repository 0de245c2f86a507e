import Cpv.Application.Model

namespace cpv

/-- The check a call makes at once lets it pass. -/
def ApplicationCall.passes (data : ApplicationData) : ApplicationCall → Bool
  | start => data.state = .StartInitialize && !data.shardData
  | stopTemporary => data.canStopTemporary
  | stop => data.canStop

/-- A call has invoked handlers, or may have. -/
def Call.Begun : Call → Prop
  | ready _ => False
  | waiting _ _ => True
  | resolved outcome => outcome ≠ .rejected

/-- The application's state and path, where no call is under way. -/
def RestsAt (state : ApplicationState) (path : List ApplicationState) : Prop :=
  (path = [] ∧ state = .StartInitialize) ∨
    (path.getLast? = some state ∧ state ∈ [.AfterStarted, .AfterTemporaryStopped, .AfterStopped])

instance (state : ApplicationState) (path : List ApplicationState) : Decidable (RestsAt state path) :=
  inferInstanceAs (Decidable (_ ∨ _))

/-- What is chained to a phase leads the application along the life cycle, from
    its state and the path the modules have seen after the phase. -/
def LeadsOn (state : ApplicationState) (path : List ApplicationState) : List Continuation → Prop
  | [] => RestsAt state path
  | .createModules :: rest => LeadsOn state path rest
  | .updateState next :: rest => LifeCyclePath (path ++ [next]) ∧ LeadsOn next (path ++ [next]) rest
  | .callInitializeFunctions :: rest => LeadsOn .CallingCustomIntializeFunctions path rest
  | .startImpl :: _ => path.getLast? = some state ∧ state = .AfterInitialized
  | .stop :: rest => LeadsOn state path rest

/-- A call has begun a phase that goes on from the path, or has failed to. -/
def Enters (path : List ApplicationState) (result : ApplicationData × Call) : Prop :=
  ∃ work rest, (result.2 = .waiting (Phase.start work) rest ∨ result.2 = .resolved .failed) ∧
    LifeCyclePath (path ++ work.states) ∧ LeadsOn result.1.state (path ++ work.states) rest

theorem Enters.not_ready {path : List ApplicationState} {result : ApplicationData × Call}
    (henters : Enters path result) (rest : List Continuation) : result.2 ≠ .ready rest := by
  obtain ⟨work, chained, hresult | hresult, -, -⟩ := henters <;> simp [hresult]

theorem Enters.begun {path : List ApplicationState} {result : ApplicationData × Call}
    (henters : Enters path result) : result.2.Begun := by
  obtain ⟨work, chained, hresult | hresult, -, -⟩ := henters <;> simp [hresult, Call.Begun]

namespace ApplicationData

variable {data : ApplicationData} {path : List ApplicationState}

theorem invokeOnAll_enters (work : CoreWork) (rest : List Continuation) (after : ApplicationData)
    (hpath : LifeCyclePath (path ++ work.states)) (hrest : LeadsOn after.state (path ++ work.states) rest) :
    Enters path (after, data.invokeOnAll work rest) := by
  refine ⟨work, rest, ?_, hpath, hrest⟩
  unfold invokeOnAll
  split
  · exact Or.inl rfl
  · exact Or.inr rfl

/-- Work that calls no module leaves the path as it is. -/
theorem invokeOnAll_enters_silently {work : CoreWork} {rest : List Continuation} {after : ApplicationData}
    (hstates : work.states = []) (hpath : LifeCyclePath path) (hrest : LeadsOn after.state path rest) :
    Enters path (after, data.invokeOnAll work rest) := by
  apply invokeOnAll_enters <;> rwa [hstates, List.append_nil]

theorem updateState_enters {state : ApplicationState} {rest : List Continuation}
    (hpath : LifeCyclePath (path ++ [state])) (hrest : LeadsOn state (path ++ [state]) rest) :
    Enters path (data.updateState state rest) :=
  invokeOnAll_enters (.handle state) rest _ hpath hrest

/-- Three states in a row, as the start and stop groups have them. -/
theorem updateState_group_enters {last first second third : ApplicationState} {rest : List Continuation}
    (hpath : LifeCyclePath path) (hlast : path.getLast? = some last) (hfirst : first ∈ last.next)
    (hsecond : second ∈ first.next) (hthird : third ∈ second.next)
    (hrest : ∀ path, path.getLast? = some third → LeadsOn third path rest) :
    Enters path (data.updateState first (.updateState second :: .updateState third :: rest)) := by
  have hfirstPath := hpath.concat hlast hfirst
  have hsecondPath := hfirstPath.concat List.getLast?_concat hsecond
  have hthirdPath := hsecondPath.concat List.getLast?_concat hthird
  exact updateState_enters hfirstPath ⟨hsecondPath, hthirdPath, hrest _ List.getLast?_concat⟩

theorem startImpl_enters (hpath : LifeCyclePath path) (hlast : path.getLast? = some data.state)
    (hcan : data.canStart = true) : Enters path data.startImpl := by
  rw [startImpl, if_pos hcan]
  simp only [canStart, Bool.or_eq_true, decide_eq_true_eq] at hcan
  apply updateState_group_enters hpath hlast
  · obtain hstate | hstate := hcan <;> simp [hstate, ApplicationState.next]
  · decide
  · decide
  · exact fun path hpath => Or.inr ⟨hpath, by decide⟩

theorem stopTemporaryImpl_enters (hpath : LifeCyclePath path) (hlast : path.getLast? = some data.state)
    (hcan : data.canStopTemporary = true) : Enters path data.stopTemporaryImpl := by
  rw [stopTemporaryImpl, if_pos hcan]
  simp only [canStopTemporary, decide_eq_true_eq] at hcan
  apply updateState_group_enters hpath hlast
  · simp [hcan, ApplicationState.next]
  · decide
  · decide
  · exact fun path hpath => Or.inr ⟨hpath, by decide⟩

theorem stopImpl_enters (hpath : LifeCyclePath path) (hlast : path.getLast? = some data.state)
    (hcan : data.canStop = true) : Enters path data.stopImpl := by
  rw [stopImpl, if_pos hcan]
  simp only [canStop, Bool.or_eq_true, decide_eq_true_eq] at hcan
  apply updateState_group_enters hpath hlast
  · obtain hstate | hstate := hcan <;> simp [hstate, ApplicationState.next]
  · decide
  · decide
  · exact fun path hpath => Or.inr ⟨hpath, by decide⟩

theorem runChain_enters {rest : List Continuation} (hpath : LifeCyclePath path)
    (hrest : LeadsOn data.state path rest) (hsome : rest ≠ []) : Enters path (data.runChain rest) := by
  cases rest with
  | nil => exact absurd rfl hsome
  | cons continuation rest =>
    cases continuation with
    | createModules => exact invokeOnAll_enters_silently rfl hpath hrest
    | updateState state => exact updateState_enters hrest.1 hrest.2
    | callInitializeFunctions => exact invokeOnAll_enters_silently rfl hpath hrest
    | startImpl => exact startImpl_enters hpath hrest.1 (by simp [canStart, hrest.2])
    | stop => exact invokeOnAll_enters_silently rfl hpath hrest

/-- The first start takes the modules through the initialize states. -/
theorem ensureInitialized_enters (hstate : data.state = .StartInitialize) (hshards : data.shardData = false) :
    Enters [] (data.ensureInitialized [.startImpl]) := by
  rw [ensureInitialized, if_neg (by simp [hstate]), if_neg (by simp [hshards])]
  refine ⟨.startShards, initializeChain ++ [.startImpl], Or.inl rfl, LifeCyclePath.nil, ?_⟩
  simp only [initializeChain, List.cons_append, List.nil_append, LeadsOn, CoreWork.states]
  decide

end ApplicationData

theorem RestsAt.getLast? {state : ApplicationState} {path : List ApplicationState} (hrests : RestsAt state path)
    (hstate : state ≠ .StartInitialize) : path.getLast? = some state :=
  (hrests.resolve_left fun h => hstate h.2).1

namespace ApplicationCall

variable {call : ApplicationCall} {data : ApplicationData}

theorem run_of_not_passes (hpasses : call.passes data = false) :
    call.run data = (data, .ready [.startImpl]) ∨ call.run data = (data, .resolved .rejected) := by
  cases call with
  | start =>
    rw [run, ApplicationData.ensureInitialized]
    by_cases hstate : data.state = .StartInitialize
    · have hshards : data.shardData = true := by simpa [passes, hstate] using hpasses
      rw [if_neg (by simp [hstate]), if_pos hshards]
      exact Or.inr rfl
    · rw [if_pos hstate]
      exact Or.inl rfl
  | stopTemporary => exact Or.inr (if_neg (by simpa [passes] using hpasses))
  | stop => exact Or.inr (if_neg (by simpa [passes] using hpasses))

/-- Where no call is under way, a call that passes its check enters the life
    cycle's next group of states. -/
theorem run_enters {path : List ApplicationState} (hpath : LifeCyclePath path) (hrests : RestsAt data.state path)
    (hpasses : call.passes data = true) : Enters path (call.run data) := by
  cases call with
  | start =>
    simp only [passes, Bool.and_eq_true, decide_eq_true_eq, Bool.not_eq_true'] at hpasses
    have hnil : path = [] := by
      obtain ⟨hnil, -⟩ | ⟨-, hstate⟩ := hrests
      · exact hnil
      · simp [hpasses.1] at hstate
    rw [hnil]
    exact ApplicationData.ensureInitialized_enters hpasses.1 hpasses.2
  | stopTemporary =>
    apply ApplicationData.stopTemporaryImpl_enters hpath (hrests.getLast? _) hpasses
    rintro hstate
    simp [passes, ApplicationData.canStopTemporary, hstate] at hpasses
  | stop =>
    apply ApplicationData.stopImpl_enters hpath (hrests.getLast? _) hpasses
    rintro hstate
    simp [passes, ApplicationData.canStop, hstate] at hpasses

end ApplicationCall

end cpv
