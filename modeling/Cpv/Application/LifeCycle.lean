import Cpv.Core.Machine
import Cpv.Application.Phases
import Cpv.Application.Trace

namespace cpv

/-- Nothing is left to do for a call but to resolve its future, and no handler
    has failed on its behalf. A call whose check is still to come has not begun. -/
def Call.Settled (cores modules : Nat) : Call → Prop
  | ready _ => True
  | waiting phase rest => rest = [] ∧ phase.IsDone cores modules
  | resolved outcome => outcome ≠ .failed

instance Call.decidableSettled (cores modules : Nat) : DecidablePred (Call.Settled cores modules)
  | ready _ => inferInstanceAs (Decidable True)
  | waiting _ _ => inferInstanceAs (Decidable (_ ∧ _))
  | resolved _ => inferInstanceAs (Decidable (_ ≠ _))

namespace Application

/-- The call that passes a check of the application's state in a step. -/
def passing (app : Application) : ApplicationLabel → Option Nat
  | .call call => if call.passes app.data then some app.calls.length else none
  | .resume index =>
    match app.calls[index]? with
    | some (.ready (.startImpl :: _)) | some (.waiting _ (.startImpl :: _)) =>
      if app.data.canStart then some index else none
    | _ => none
  | .invoke _ _ | .complete _ _ _ => none

/-- A call passes a check only once all the other calls are settled. -/
def Undisturbed (app : Application) (label : ApplicationLabel) : Prop :=
  ∀ index ∈ app.passing label, ∀ other ∈ app.calls.eraseIdx index, other.Settled app.cores app.modules

instance decidableUndisturbed (app : Application) (label : ApplicationLabel) :
    Decidable (app.Undisturbed label) :=
  inferInstanceAs (Decidable (∀ index ∈ app.passing label, _))

end Application

/-- One call is made or goes on, the others stay as they are. -/
structure Updates (before after : List Call) (index : Nat) (call : Call) : Prop where
  this : after[index]? = some call
  others : ∀ other, other ≠ index → after[other]? = before[other]?

theorem Updates.concat (calls : List Call) (call : Call) : Updates calls (calls ++ [call]) calls.length call where
  this := by simp
  others other hother := by grind

theorem Updates.set {calls : List Call} {index : Nat} {old : Call} (hold : calls[index]? = some old) (call : Call) :
    Updates calls (calls.set index call) index call where
  this := by grind
  others other hother := by grind

namespace Application

/-- No call is under way. -/
structure Quiet (app : Application) (path : List ApplicationState) : Prop where
  settled : ∀ (index : Nat) (call : Call), app.calls[index]? = some call → call.Settled app.cores app.modules
  seen : SeenPath app.cores app.modules app.trace path
  lifeCycle : LifeCyclePath path
  rests : RestsAt app.data.state path

/-- One call is under way: the modules have seen the path and are seeing the
    states of its phase. -/
structure Busy (app : Application) (path : List ApplicationState) (index : Nat) (phase : Phase)
    (rest : List Continuation) : Prop where
  call : app.calls[index]? = some (.waiting phase rest)
  others : ∀ (other : Nat) (call : Call), other ≠ index → app.calls[other]? = some call →
    call.Settled app.cores app.modules
  seen : SeenPhase app.cores app.modules app.trace path phase
  lifeCycle : LifeCyclePath (path ++ phase.work.states)
  leadsOn : LeadsOn app.data.state (path ++ phase.work.states) rest

/-- A call has failed, and none is under way. -/
structure Broken (app : Application) : Prop where
  failed : ∃ index : Nat, app.calls[index]? = some (.resolved .failed)
  idle : ∀ (index : Nat) (call : Call), app.calls[index]? = some call →
    call.Settled app.cores app.modules ∨ call = .resolved .failed

inductive Situation (app : Application) : Prop
  | quiet (path : List ApplicationState) (hquiet : app.Quiet path)
  | busy (path : List ApplicationState) (index : Nat) (phase : Phase) (rest : List Continuation)
      (hbusy : app.Busy path index phase rest)
  | broken (hbroken : app.Broken)

variable {app : Application}

/-- Where all calls are settled, the application is where a call has left it. -/
theorem Situation.quiet_of_settled (hsituation : app.Situation)
    (hsettled : ∀ (index : Nat) (call : Call), app.calls[index]? = some call → call.Settled app.cores app.modules) :
    ∃ path, app.Quiet path := by
  cases hsituation with
  | quiet path hquiet => exact ⟨path, hquiet⟩
  | busy path index phase rest hbusy =>
    obtain ⟨rfl, hdone⟩ := hsettled index _ hbusy.call
    exact ⟨path ++ phase.work.states, hsettled, hbusy.seen.done hdone, hbusy.lifeCycle, hbusy.leadsOn⟩
  | broken hbroken =>
    obtain ⟨index, hfailed⟩ := hbroken.failed
    exact absurd rfl (hsettled index _ hfailed)

/-- A call that is not settled is the one under way. -/
theorem Situation.busy_of_not_settled (hsituation : app.Situation) {index : Nat} {phase : Phase}
    {rest : List Continuation} (hcall : app.calls[index]? = some (.waiting phase rest))
    (hunsettled : ¬ (Call.waiting phase rest).Settled app.cores app.modules) :
    ∃ path, app.Busy path index phase rest := by
  cases hsituation with
  | quiet path hquiet => exact absurd (hquiet.settled index _ hcall) hunsettled
  | busy path index' phase' rest' hbusy =>
    obtain rfl : index = index' := by
      by_contra hother
      exact hunsettled (hbusy.others index _ hother hcall)
    obtain ⟨rfl, rfl⟩ : phase = phase' ∧ rest = rest' := by simpa [hcall] using hbusy.call
    exact ⟨path, hbusy⟩
  | broken hbroken =>
    obtain hsettled | hfailed := hbroken.idle index _ hcall
    · exact absurd hsettled hunsettled
    · cases hfailed

/-- A call passes from one settled state to another. -/
theorem Situation.settle (hsituation : app.Situation) {index : Nat} {call : Call} {calls : List Call}
    (hupdates : Updates app.calls calls index call)
    (hold : ∀ old, app.calls[index]? = some old → old.Settled app.cores app.modules)
    (hcall : call.Settled app.cores app.modules) : Situation { app with calls } := by
  have hsettled (other : Nat) (next : Call) (hnext : calls[other]? = some next)
      (hother : ∀ next, other ≠ index → app.calls[other]? = some next → next.Settled app.cores app.modules) :
      next.Settled app.cores app.modules := by
    by_cases hsame : other = index
    · obtain rfl : call = next := by simpa [hsame, hupdates.this] using hnext
      exact hcall
    · exact hother next hsame (hupdates.others other hsame ▸ hnext)
  cases hsituation with
  | quiet path hquiet =>
    apply Situation.quiet path
    exact ⟨fun other next hnext => hsettled other next hnext fun next _ => hquiet.settled other next,
      hquiet.seen, hquiet.lifeCycle, hquiet.rests⟩
  | busy path current phase rest hbusy =>
    by_cases hcurrent : current = index
    · -- the call under way only had to resolve its future
      subst hcurrent
      obtain ⟨rfl, hdone⟩ := hold _ hbusy.call
      apply Situation.quiet (path ++ phase.work.states)
      exact ⟨fun other next hnext => hsettled other next hnext fun next hother => hbusy.others other next hother,
        hbusy.seen.done hdone, hbusy.lifeCycle, hbusy.leadsOn⟩
    · apply Situation.busy path current phase rest
      refine ⟨(hupdates.others current hcurrent).trans hbusy.call, fun other next hother hnext => ?_, hbusy.seen,
        hbusy.lifeCycle, hbusy.leadsOn⟩
      exact hsettled other next hnext fun next _ => hbusy.others other next hother
  | broken hbroken =>
    obtain ⟨failed, hfailed⟩ := hbroken.failed
    have hother : failed ≠ index := by
      rintro rfl
      exact absurd rfl (hold _ hfailed)
    apply Situation.broken
    refine ⟨⟨failed, (hupdates.others failed hother).trans hfailed⟩, fun other next hnext => ?_⟩
    by_cases hsame : other = index
    · obtain rfl : call = next := by simpa [hsame, hupdates.this] using hnext
      exact Or.inl hcall
    · exact hbroken.idle other next (hupdates.others other hsame ▸ hnext)

/-- The call under way fails. -/
theorem Busy.broken {path : List ApplicationState} {index : Nat} {phase : Phase} {rest : List Continuation}
    {calls : List Call} (hbusy : app.Busy path index phase rest)
    (hupdates : Updates app.calls calls index (.resolved .failed)) : Broken { app with calls } := by
  refine ⟨⟨index, hupdates.this⟩, fun other call hcall => ?_⟩
  by_cases hsame : other = index
  · exact Or.inr (by simpa [hsame, hupdates.this] using hcall.symm)
  · exact Or.inl (hbusy.others other call hsame (hupdates.others other hsame ▸ hcall))

/-- Where the other calls are settled, a call enters its next phase. -/
theorem Situation.enter {path : List ApplicationState} {result : ApplicationData × Call} {index : Nat}
    {calls : List Call} (henters : Enters path result) (hseen : SeenPath app.cores app.modules app.trace path)
    (hothers : ∀ (other : Nat) (call : Call), other ≠ index → app.calls[other]? = some call →
      call.Settled app.cores app.modules)
    (hupdates : Updates app.calls calls index result.2) : Situation { app with data := result.1, calls } := by
  obtain ⟨work, rest, hwaiting | hfailed, hlifeCycle, hleadsOn⟩ := henters
  · apply Situation.busy path index (Phase.start work) rest
    refine ⟨hupdates.this.trans (by rw [hwaiting]), fun other call hother hcall => ?_, hseen.start work, hlifeCycle,
      hleadsOn⟩
    exact hothers other call hother (hupdates.others other hother ▸ hcall)
  · apply Situation.broken
    refine ⟨⟨index, hupdates.this.trans (by rw [hfailed])⟩, fun other call hcall => ?_⟩
    by_cases hsame : other = index
    · obtain rfl : result.2 = call := by simpa [hsame, hupdates.this] using hcall
      exact Or.inr hfailed
    · exact Or.inl (hothers other call hsame (hupdates.others other hsame ▸ hcall))

/-- What the handlers have been through so far, and the calls' part in it. -/
structure Invariant (app : Application) : Prop where
  path : ∀ core < app.cores, ∀ module < app.modules,
    LifeCyclePath (statesSeen .invoked app.trace core module)
  inTurn : ∀ before event, before ++ [event] <+: app.trace → event.kind = .invoked →
    InTurn app.cores app.modules before event
  begun : ∀ event ∈ app.trace, ∃ call, app.calls[event.call]? = some call ∧ call.Begun
  chained : ∀ (index : Nat) (rest : List Continuation), app.calls[index]? = some (.ready rest) → rest = [.startImpl]
  situation : app.Situation

theorem Invariant.followsLifeCycle (hinvariant : app.Invariant) : app.FollowsLifeCycle where
  path := hinvariant.path
  inTurn := hinvariant.inTurn
  rejected event hevent hrejected := by
    obtain ⟨call, hcall, hbegun⟩ := hinvariant.begun event hevent
    obtain rfl : call = .resolved .rejected := by simpa [hcall] using hrejected
    exact hbegun rfl

/-- A call is made or goes on, and no handler is invoked or completes by it. -/
theorem Invariant.update (hinvariant : app.Invariant) {data : ApplicationData} {calls : List Call} {index : Nat}
    {call : Call} (hupdates : Updates app.calls calls index call)
    (hbegun : ∀ old, app.calls[index]? = some old → old.Begun → call.Begun)
    (hchained : ∀ rest, call = .ready rest → rest = [.startImpl])
    (hsituation : Situation { app with data, calls }) : Invariant { app with data, calls } where
  path := hinvariant.path
  inTurn := hinvariant.inTurn
  begun event hevent := by
    obtain ⟨old, hold, holdBegun⟩ := hinvariant.begun event hevent
    by_cases hsame : event.call = index
    · rw [hsame] at hold ⊢
      exact ⟨call, hupdates.this, hbegun old hold holdBegun⟩
    · exact ⟨old, (hupdates.others _ hsame).trans hold, holdBegun⟩
  chained other rest hother := by
    by_cases hsame : other = index
    · apply hchained
      simpa [hsame, hupdates.this] using hother
    · exact hinvariant.chained other rest (hupdates.others other hsame ▸ hother)
  situation := hsituation

/-- The call under way goes on with its phase. -/
theorem Invariant.advance (hinvariant : app.Invariant) {path : List ApplicationState} {index : Nat}
    {phase next : Phase} {rest : List Continuation} (hbusy : app.Busy path index phase rest)
    (hwork : next.work = phase.work) {events : List HandlerEvent}
    (hseen : SeenPhase app.cores app.modules (app.trace ++ events) path next)
    (hevents : events = [] ∨ ∃ event, events = [event] ∧ event.call = index ∧
      (event.kind = .invoked → InTurn app.cores app.modules app.trace event)) :
    (app.advance index next rest events).Invariant where
  path core hcore module hmodule := by
    change LifeCyclePath (statesSeen .invoked (app.trace ++ events) core module)
    rw [hseen .invoked core hcore module hmodule, hwork]
    split
    · exact hbusy.lifeCycle
    · rw [List.append_nil]
      exact hbusy.lifeCycle.of_append
  inTurn before event hprefix hkind := by
    obtain rfl | ⟨new, rfl, -, hnew⟩ := hevents
    · exact hinvariant.inTurn before event (by simpa [Application.advance] using hprefix) hkind
    · obtain hlast | hearlier := List.prefix_concat_iff.mp hprefix
      · obtain ⟨rfl, hsame⟩ := List.append_inj' hlast rfl
        obtain rfl : event = new := by simpa using hsame
        exact hnew hkind
      · exact hinvariant.inTurn before event hearlier hkind
  begun event hevent := by
    have hupdates := Updates.set hbusy.call (.waiting next rest)
    have hold : ∃ call, app.calls[event.call]? = some call ∧ call.Begun := by
      obtain hevent | hnew := List.mem_append.mp hevent
      · exact hinvariant.begun event hevent
      · obtain rfl | ⟨new, rfl, hcall, -⟩ := hevents
        · cases hnew
        · obtain rfl : event = new := by simpa using hnew
          exact ⟨.waiting phase rest, hcall ▸ hbusy.call, trivial⟩
    obtain ⟨call, hcall, hbegun⟩ := hold
    by_cases hsame : event.call = index
    · exact ⟨.waiting next rest, hsame ▸ hupdates.this, trivial⟩
    · exact ⟨call, (hupdates.others _ hsame).trans hcall, hbegun⟩
  chained other rest' hother := by
    have hupdates := Updates.set hbusy.call (.waiting next rest)
    by_cases hsame : other = index
    · subst hsame
      cases hupdates.this.symm.trans hother
    · exact hinvariant.chained other rest' (hupdates.others other hsame ▸ hother)
  situation := by
    have hupdates := Updates.set hbusy.call (.waiting next rest)
    apply Situation.busy path index next rest
    refine ⟨hupdates.this, fun other call hother hcall => ?_, hseen, hwork ▸ hbusy.lifeCycle, hwork ▸ hbusy.leadsOn⟩
    exact hbusy.others other call hother (hupdates.others other hother ▸ hcall)

theorem Undisturbed.settled {label : ApplicationLabel} (hundisturbed : app.Undisturbed label) {index : Nat}
    (hpassing : app.passing label = some index) (other : Nat) (call : Call) (hother : other ≠ index)
    (hcall : app.calls[other]? = some call) : call.Settled app.cores app.modules :=
  hundisturbed index hpassing call (List.mem_eraseIdx_iff_getElem?.mpr ⟨other, hother, hcall⟩)

theorem Invariant.step_call (hinvariant : app.Invariant) (call : ApplicationCall)
    (hundisturbed : app.Undisturbed (.call call)) :
    Invariant { app with data := (call.run app.data).1, calls := app.calls ++ [(call.run app.data).2] } := by
  have hnew (old : Call) : app.calls[app.calls.length]? ≠ some old := by simp
  cases hpasses : call.passes app.data with
  | false =>
    have hsettle (next : Call) (hnext : next.Settled app.cores app.modules)
        (hchained : ∀ rest, next = .ready rest → rest = [.startImpl]) :
        Invariant { app with calls := app.calls ++ [next] } := by
      have hupdates := Updates.concat app.calls next
      apply hinvariant.update hupdates (fun old hold => absurd hold (hnew old)) hchained
      exact hinvariant.situation.settle hupdates (fun old hold => absurd hold (hnew old)) hnext
    obtain hrun | hrun := ApplicationCall.run_of_not_passes hpasses
    · rw [hrun]
      exact hsettle _ trivial (by rintro rest ⟨⟩; rfl)
    · rw [hrun]
      exact hsettle _ (by rintro ⟨⟩) (by rintro rest ⟨⟩)
  | true =>
    have hothers := hundisturbed.settled (if_pos hpasses)
    have hsettled (other : Nat) (next : Call) (hnext : app.calls[other]? = some next) :
        next.Settled app.cores app.modules := by
      apply hothers other next _ hnext
      rintro rfl
      exact hnew next hnext
    obtain ⟨path, hquiet⟩ := hinvariant.situation.quiet_of_settled hsettled
    have henters := ApplicationCall.run_enters hquiet.lifeCycle hquiet.rests hpasses
    have hupdates := Updates.concat app.calls (call.run app.data).2
    apply hinvariant.update hupdates (fun old hold => absurd hold (hnew old))
      (fun rest hready => absurd hready (henters.not_ready rest))
    exact Situation.enter henters hquiet.seen hothers hupdates

/-- A call whose future is ready runs what is chained to it. -/
theorem Invariant.step_resume (hinvariant : app.Invariant) {index : Nat} {call : Call}
    (hundisturbed : app.Undisturbed (.resume index)) (hcall : app.calls[index]? = some call)
    {result : ApplicationData × Call} (hresult : app.resumeCall call = some result) :
    Invariant { app with data := result.1, calls := app.calls.set index result.2 } := by
  have hupdates := Updates.set hcall result.2
  have hsame (old : Call) (hold : app.calls[index]? = some old) : old = call :=
    Option.some.inj (hold.symm.trans hcall)
  cases call with
  | resolved outcome => cases hresult
  | ready rest =>
    obtain rfl := hinvariant.chained index rest hcall
    obtain rfl : app.data.startImpl = result := Option.some.inj hresult
    cases hcan : app.data.canStart with
    | false =>
      have hrejected : app.data.startImpl = (app.data, .resolved .rejected) := if_neg (by simp [hcan])
      rw [hrejected] at hupdates ⊢
      apply hinvariant.update hupdates
      · intro old hold hbegun
        rw [hsame old hold] at hbegun
        exact hbegun.elim
      · rintro rest ⟨⟩
      · apply hinvariant.situation.settle hupdates
        · intro old hold
          rw [hsame old hold]
          trivial
        · rintro ⟨⟩
    | true =>
      have hpassing : app.passing (.resume index) = some index := by simp [passing, hcall, hcan]
      have hothers := hundisturbed.settled hpassing
      have hsettled (other : Nat) (next : Call) (hnext : app.calls[other]? = some next) :
          next.Settled app.cores app.modules := by
        by_cases hother : other = index
        · rw [hsame next (hother ▸ hnext)]
          trivial
        · exact hothers other next hother hnext
      obtain ⟨path, hquiet⟩ := hinvariant.situation.quiet_of_settled hsettled
      have hstate : app.data.state ≠ .StartInitialize := by
        intro hstate
        simp [ApplicationData.canStart, hstate] at hcan
      have henters := ApplicationData.startImpl_enters hquiet.lifeCycle (hquiet.rests.getLast? hstate) hcan
      apply hinvariant.update hupdates
      · intro old hold hbegun
        rw [hsame old hold] at hbegun
        exact hbegun.elim
      · exact fun rest hready => absurd hready (henters.not_ready rest)
      · exact Situation.enter henters hquiet.seen hothers hupdates
  | waiting phase rest =>
    unfold resumeCall at hresult
    simp only at hresult
    split at hresult
    · rename_i hdone
      obtain rfl := Option.some.inj hresult
      by_cases hrest : rest = []
      · -- nothing is chained, and the call's own future is resolved
        subst hrest
        apply hinvariant.update hupdates
        · intro old hold hbegun
          rintro ⟨⟩
        · rintro rest ⟨⟩
        · apply hinvariant.situation.settle hupdates
          · intro old hold
            rw [hsame old hold]
            exact ⟨rfl, hdone⟩
          · rintro ⟨⟩
      · obtain ⟨path, hbusy⟩ := hinvariant.situation.busy_of_not_settled hcall fun h => hrest h.1
        have henters := ApplicationData.runChain_enters hbusy.lifeCycle hbusy.leadsOn hrest
        apply hinvariant.update hupdates
        · exact fun old hold hbegun => henters.begun
        · exact fun rest hready => absurd hready (henters.not_ready rest)
        · exact Situation.enter henters (hbusy.seen.done hdone) hbusy.others hupdates
    · rename_i hnot
      split at hresult
      · obtain rfl := Option.some.inj hresult
        obtain ⟨path, hbusy⟩ := hinvariant.situation.busy_of_not_settled hcall fun h => hnot h.2
        apply hinvariant.update hupdates
        · intro old hold hbegun
          rintro ⟨⟩
        · rintro rest ⟨⟩
        · exact Situation.broken (hbusy.broken hupdates)
      · cases hresult

/-- A handler is invoked only by the call under way, and in its turn. -/
theorem Invariant.step_invoke (hinvariant : app.Invariant) {index core : Nat} {after : Application}
    (hstep : app.step (.invoke index core) = some after) : after.Invariant := by
  simp only [step] at hstep
  split at hstep
  · rename_i phase rest hcall
    obtain ⟨hcore, module, next, hinvoke, rfl⟩ : core < app.cores ∧ ∃ module next,
        phase.invoke app.modules core = some (module, next) ∧
        app.advance index next rest (phase.work.events .invoked index core module) = after := by
      simpa [guard, Option.bind_eq_some_iff] using hstep
    obtain ⟨hprogress, hmodule, rfl⟩ := Phase.invoke_spec hinvoke
    obtain ⟨path, hbusy⟩ := hinvariant.situation.busy_of_not_settled hcall fun h => by
      have hdone := h.2 core hcore
      rw [hprogress, CoreProgress.ready.injEq] at hdone
      omega
    apply hinvariant.advance hbusy
    · rfl
    · apply hbusy.seen.advance
      · rfl
      · exact fun other hother => Function.update_of_ne hother _ _
      · simp [hprogress, CoreProgress.count, CoreProgress.invoked]
      · simp [hprogress, CoreProgress.count, CoreProgress.invoked]
      · rintro ⟨⟩ hother
        · exact absurd rfl hother
        · simp [hprogress, CoreProgress.count, CoreProgress.completed]
    · obtain hsilent | ⟨state, hstate, hunits⟩ := phase.work.states_cases app.modules
      · exact Or.inl (by simp [CoreWork.events, hsilent])
      · refine Or.inr ⟨{ kind := .invoked, call := index, core, module, state }, ?_, rfl, fun _ => ?_⟩
        · simp [CoreWork.events, hstate]
        · exact hbusy.seen.inTurn hcore hprogress (hunits ▸ hmodule) hstate index
  · cases hstep

/-- Only a handler of the call under way is there to complete. -/
theorem Invariant.step_complete (hinvariant : app.Invariant) {index core : Nat} {succeeds : Bool}
    {after : Application} (hstep : app.step (.complete index core succeeds) = some after) : after.Invariant := by
  simp only [step] at hstep
  split at hstep
  · rename_i phase rest hcall
    obtain ⟨hcore, module, next, hcomplete, rfl⟩ : core < app.cores ∧ ∃ module next,
        phase.complete core succeeds = some (module, next) ∧ app.advance index next rest
          (if succeeds then phase.work.events .completed index core module else []) = after := by
      simpa [guard, Option.bind_eq_some_iff] using hstep
    obtain ⟨hprogress, rfl⟩ := Phase.complete_spec hcomplete
    obtain ⟨path, hbusy⟩ := hinvariant.situation.busy_of_not_settled hcall fun h => by
      have hdone := h.2 core hcore
      rw [hprogress] at hdone
      cases hdone
    cases succeeds with
    | true =>
      apply hinvariant.advance hbusy
      · rfl
      · rw [if_pos rfl]
        apply hbusy.seen.advance
        · rfl
        · exact fun other hother => Function.update_of_ne hother _ _
        · simp [hprogress, CoreProgress.count, CoreProgress.completed]
        · simp [hprogress, CoreProgress.count, CoreProgress.completed]
        · rintro ⟨⟩ hother
          · simp [hprogress, CoreProgress.count, CoreProgress.invoked]
          · exact absurd rfl hother
      · obtain hsilent | ⟨state, hstate, -⟩ := phase.work.states_cases app.modules
        · exact Or.inl (by simp [CoreWork.events, hsilent])
        · refine Or.inr ⟨{ kind := .completed, call := index, core, module, state }, ?_, rfl, ?_⟩
          · simp [CoreWork.events, hstate]
          · rintro ⟨⟩
    | false =>
      apply hinvariant.advance hbusy
      · rfl
      · rw [if_neg Bool.false_ne_true, List.append_nil]
        apply hbusy.seen.congr
        · rfl
        intro kind other
        by_cases hother : other = core
        · subst hother
          cases kind <;> simp [hprogress, CoreProgress.count, CoreProgress.invoked, CoreProgress.completed]
        · simp only [Function.update_of_ne hother]
      · exact Or.inl rfl
  · cases hstep

theorem Invariant.step (app : Application) (label : ApplicationLabel) (after : Application)
    (hundisturbed : app.Undisturbed label) (hstep : app.step label = some after)
    (hinvariant : app.Invariant) : after.Invariant := by
  cases label with
  | call call =>
    obtain rfl := Option.some.inj hstep
    exact hinvariant.step_call call hundisturbed
  | resume index =>
    obtain ⟨call, hcall, data, next, hresult, rfl⟩ : ∃ call, app.calls[index]? = some call ∧ ∃ data next,
        app.resumeCall call = some (data, next) ∧ { app with data, calls := app.calls.set index next } = after := by
      simpa [Application.step, Option.bind_eq_some_iff] using hstep
    exact hinvariant.step_resume hundisturbed hcall hresult
  | invoke index core => exact hinvariant.step_invoke hstep
  | complete index core succeeds => exact hinvariant.step_complete hstep

theorem initial_invariant (cores modules : Nat) : Invariant { cores, modules } where
  path core hcore module hmodule := LifeCyclePath.nil
  inTurn before event hprefix := by
    have hnil := List.prefix_nil.mp hprefix
    simp at hnil
  begun event hevent := absurd hevent List.not_mem_nil
  chained index rest hcall := by simp at hcall
  situation := by
    apply Situation.quiet []
    exact ⟨fun index call hcall => by simp at hcall, fun kind core hcore module hmodule => rfl, LifeCyclePath.nil,
      Or.inl ⟨rfl, rfl⟩⟩

end Application

/-- Where no call passes a check while another one is under way or has failed,
    the modules follow the life cycle. -/
theorem followsLifeCycle_of_undisturbed {cores modules : Nat} {labels : List ApplicationLabel} {app : Application}
    (hrun : Machine.run Application.step { cores, modules } labels = some app)
    (hundisturbed : Machine.Conforms Application.step Application.Undisturbed { cores, modules } labels) :
    app.FollowsLifeCycle :=
  (Machine.run_preserves_of_conforms Application.Invariant.step hundisturbed hrun
    (Application.initial_invariant cores modules)).followsLifeCycle

/-- On one core and with one module: phases of a call that go through. -/
def phaseLabels (call count : Nat) : List ApplicationLabel :=
  (List.replicate count [.invoke call 0, .complete call 0 true, .resume call]).flatten

def startAndStop : List ApplicationLabel :=
  .call .start :: phaseLabels 0 16 ++ .call .stop :: phaseLabels 1 4

def stoppedApplication : Application := (Machine.run Application.step { cores := 1, modules := 1 } startAndStop).getD
  { cores := 1, modules := 1 }

set_option maxRecDepth 4096 in
theorem followsLifeCycle_of_undisturbed_startAndStop : stoppedApplication.FollowsLifeCycle := by
  have hrun : Machine.run Application.step { cores := 1, modules := 1 } startAndStop = some stoppedApplication := rfl
  exact followsLifeCycle_of_undisturbed hrun (by decide +kernel)

/-- A start while the handler of the last initialize state is still running. -/
def startTwice : List ApplicationLabel :=
  .call .start :: phaseLabels 0 12 ++ [.invoke 0 0, .call .start, .resume 1, .invoke 1 0]

def startedTwice : Application := (Machine.run Application.step { cores := 1, modules := 1 } startTwice).getD
  { cores := 1, modules := 1 }

/-- The second start is let through, and the module is called with `BeforeStart`
    before it has completed `AfterInitialized`. -/
theorem startTwice_overtakes : ¬ ∀ (cores modules : Nat) (labels : List ApplicationLabel) (app : Application),
    Machine.run Application.step { cores, modules } labels = some app → app.FollowsLifeCycle := by
  intro hclaim
  have hrun : Machine.run Application.step { cores := 1, modules := 1 } startTwice = some startedTwice := rfl
  have hfollows := hclaim 1 1 startTwice startedTwice hrun
  let event : HandlerEvent := { kind := .invoked, call := 1, core := 0, module := 0, state := .BeforeStart }
  have hlast : startedTwice.trace.dropLast ++ [event] <+: startedTwice.trace := by decide +kernel
  have hturn := hfollows.inTurn _ event hlast rfl
  have hovertaken : ¬ statesSeen .invoked startedTwice.trace.dropLast 0 0 <+:
      statesSeen .completed startedTwice.trace.dropLast 0 0 := by decide +kernel
  exact hovertaken (hturn.barrier 0 (by decide) 0 (by decide))

end cpv
