import Cpv.Container.Lifetimes
import Cpv.Container.Resolve

namespace cpv

open Run (exec)

variable {τ V W E : Type} {data : ContainerData τ V W E}
  {resolve : ServiceDescriptor τ V W E → StorageRef → ServiceAction τ V W E V}

theorem serviceProperty_total : ServiceProperty (τ := τ) (V := V) (W := W) (E := E) Run.Total where
  toComposable := Run.composable_total
  read := Run.total_get
  changeWorld _ := Run.total_modify _
  clearStorage _ := Run.total_modify _

theorem serviceProperty_moves {R : ContainerState τ V W E → ContainerState τ V W E → Prop} (hrefl : ∀ state, R state state)
    (htrans : ∀ {first second third}, R first second → R second third → R first third)
    (hworld : ∀ update state, R state (state.changeWorld update))
    (hclear : ∀ storage state, R state (state.clearStorage storage)) : ServiceProperty (Run.Moves R) where
  toComposable := Run.composable_moves hrefl htrans
  read := Run.moves_get hrefl
  changeWorld update := Run.moves_modify (hworld update)
  clearStorage storage := Run.moves_modify (hclear storage)

section Total

/-- A descriptor comes back if what it asks the container for does. -/
theorem ServiceDescriptor.total_getInstance {descriptor : ServiceDescriptor τ V W E}
    (hresolve : ∀ list, descriptor.Resolves data list → ∀ other ∈ data.lists list, ∀ storage,
      Run.Total (resolve other storage)) (storage : StorageRef) :
    Run.Total (descriptor.getInstance data resolve storage) := by
  induction descriptor with
  | registered header factory =>
    exact ServiceHeader.total_getInstance (serviceProperty_total.factoryInvoke hresolve _ _)
  | patched header original func ih =>
    apply ServiceHeader.total_getInstance
    exact serviceProperty_total.callPatched (ih fun list hlist => hresolve list (.inl hlist))
      (fun list hlist => hresolve list (.inr hlist)) storage

/-- Without circles a resolution nests no deeper than there are lists. -/
theorem ContainerData.WellFormed.total_getInstance (hdata : data.WellFormed) (hacyclic : data.Acyclic) {fuel list : Nat}
    (hfuel : Relation.reach data.DependsOn (Finset.range data.nextList) list < fuel) :
    ∀ descriptor ∈ data.lists list, ∀ storage, Run.Total (data.getInstance fuel descriptor storage) := by
  induction fuel generalizing list with
  | zero => cases hfuel
  | succ fuel ih =>
    intro descriptor hmem storage
    apply ServiceDescriptor.total_getInstance
    intro other hresolves
    have hdepends : data.DependsOn list other := ⟨descriptor, hmem, hresolves⟩
    have hless := Relation.reach_lt hacyclic hdepends (Finset.mem_range.mpr (hdata.dependsOn_lt hdepends))
    exact ih (Nat.lt_of_lt_of_le hless (Nat.le_of_lt_succ hfuel))

theorem ContainerData.reach_lt {fuel : Nat} (hfuel : data.nextList < fuel) (list : Nat) :
    Relation.reach data.DependsOn (Finset.range data.nextList) list < fuel := by
  have hle := Relation.reach_le data.DependsOn (Finset.range data.nextList) list
  rw [Finset.card_range] at hle
  exact Nat.lt_of_le_of_lt hle hfuel

end Total

section KeepsEmpty

/-- Nothing has come to be kept for the descriptor at an address. -/
def KeepsEmpty (address : Nat) (before after : ContainerState τ V W E) : Prop :=
  (before.instances address = none → after.instances address = none) ∧
  ∀ storage, (before.storages storage).get address = none → (after.storages storage).get address = none

theorem KeepsEmpty.refl (address : Nat) (state : ContainerState τ V W E) : KeepsEmpty address state state :=
  ⟨id, fun _ => id⟩

theorem KeepsEmpty.trans {address : Nat} {first second third : ContainerState τ V W E}
    (hfirst : KeepsEmpty address first second) (hsecond : KeepsEmpty address second third) :
    KeepsEmpty address first third :=
  ⟨fun hnone => hsecond.1 (hfirst.1 hnone), fun storage hnone => hsecond.2 storage (hfirst.2 storage hnone)⟩

theorem keepsEmpty_clearStorage (address : Nat) (storage : StorageRef) (state : ContainerState τ V W E) :
    KeepsEmpty address state (state.clearStorage storage) := by
  refine ⟨id, fun other hnone => ?_⟩
  simp only [ContainerState.clearStorage, ContainerState.record, ContainerState.changeCaches,
    ServiceCaches.clearStorage, Function.update_apply]
  split
  · rfl
  · exact hnone

theorem KeepsEmpty.cached_none {header : ServiceHeader τ V} {storage : StorageRef} {before after : ContainerState τ V W E}
    (hkeeps : KeepsEmpty header.address before after) (hnone : before.cached header storage = none) :
    after.cached header storage = none := by
  unfold ServiceCaches.cached at hnone ⊢
  cases hlifetime : header.lifetime <;> rw [hlifetime] at hnone
  · simp only [ServiceCaches.instanceOf, Option.or_eq_none_iff] at hnone ⊢
    exact ⟨hnone.1, hkeeps.1 hnone.2⟩
  · exact hkeeps.2 storage hnone

theorem keepsEmpty_afterRun {address : Nat} {header : ServiceHeader τ V} (hne : header.address ≠ address)
    (storage : StorageRef) (outcome : Except (ServiceException τ E) V) (state : ContainerState τ V W E) :
    KeepsEmpty address state (header.afterRun storage outcome state) := by
  rcases outcome with exception | service
  · exact KeepsEmpty.refl address state
  · cases hlifetime : header.lifetime <;> simp only [ServiceHeader.afterRun, ContainerState.record,
      ContainerState.changeCaches, ServiceCaches.store, hlifetime]
    · exact KeepsEmpty.refl address state
    · exact ⟨fun hnone => (Function.update_of_ne hne.symm ..).trans hnone, fun _ => id⟩
    · refine ⟨id, fun other hnone => ?_⟩
      simp only [ServiceCaches.setStored, Function.update_apply]
      split
      · rename_i heq
        rw [ServiceStorage.get_set, if_neg hne.symm, ← heq]
        exact hnone
      · exact hnone
    · exact KeepsEmpty.refl address state

theorem ServiceHeader.keepsEmpty_getInstance {address : Nat} {header : ServiceHeader τ V}
    (hne : header.address ≠ address) {factory : ServiceAction τ V W E V}
    (hfactory : Run.Moves (KeepsEmpty address) factory) (storage : StorageRef) :
    Run.Moves (KeepsEmpty address) (header.getInstance factory storage) := by
  intro state after outcome hexec
  rcases ServiceHeader.getInstance_cases hexec with
    ⟨_, -, -, -, rfl⟩ | ⟨result, mid, -, -, hrun, -, rfl⟩ | ⟨-, -, rfl⟩
  · exact KeepsEmpty.refl address state
  · exact (hfactory hrun).trans (keepsEmpty_afterRun hne storage result mid)
  · exact KeepsEmpty.refl address state

theorem serviceProperty_keepsEmpty (address : Nat) :
    ServiceProperty (Run.Moves (KeepsEmpty (τ := τ) (V := V) (W := W) (E := E) address)) :=
  serviceProperty_moves (KeepsEmpty.refl address) KeepsEmpty.trans (fun _ state => KeepsEmpty.refl address state)
    (keepsEmpty_clearStorage address)

theorem ServiceDescriptor.keepsEmpty_getInstance {address : Nat} {descriptor : ServiceDescriptor τ V W E}
    (hne : ∀ header ∈ descriptor.headers, header.address ≠ address)
    (hresolve : ∀ list, descriptor.Resolves data list → ∀ other ∈ data.lists list, ∀ storage,
      Run.Moves (KeepsEmpty address) (resolve other storage)) (storage : StorageRef) :
    Run.Moves (KeepsEmpty address) (descriptor.getInstance data resolve storage) := by
  induction descriptor with
  | registered header factory =>
    exact ServiceHeader.keepsEmpty_getInstance (hne header (.head _))
      ((serviceProperty_keepsEmpty address).factoryInvoke hresolve _ _) storage
  | patched header original func ih =>
    apply ServiceHeader.keepsEmpty_getInstance (hne header (.head _))
    exact (serviceProperty_keepsEmpty address).callPatched
      (ih (fun inner hinner => hne inner (.tail _ hinner)) fun list hlist => hresolve list (.inl hlist))
      (fun list hlist => hresolve list (.inr hlist)) storage

/-- Nothing comes to be kept for a descriptor while others are resolved that do not depend on it. -/
theorem ContainerData.keepsEmpty_getInstance {address fuel list : Nat}
    (hne : ∀ other, Relation.ReflTransGen data.DependsOn list other → ∀ descriptor ∈ data.lists other,
      ∀ header ∈ descriptor.headers, header.address ≠ address) :
    ∀ descriptor ∈ data.lists list, ∀ storage,
      Run.Moves (KeepsEmpty address) (data.getInstance fuel descriptor storage) := by
  induction fuel generalizing list with
  | zero => exact fun _ _ _ => Run.moves_diverge
  | succ fuel ih =>
    intro descriptor hmem storage
    refine ServiceDescriptor.keepsEmpty_getInstance (hne list .refl descriptor hmem) (fun other hresolves => ?_) storage
    exact ih fun further hreach => hne further (.head ⟨descriptor, hmem, hresolves⟩ hreach)

end KeepsEmpty

section Tracked

variable {start : ServiceCaches V} {state : ContainerState τ V W E}

/-- The invariant of a run: its log is lawful and accounts for everything that is kept. -/
structure Tracked (data : ContainerData τ V W E) (start : ServiceCaches V) (state : ContainerState τ V W E) : Prop where
  lawful : Lawful start state.log
  settled : Settled state.log
  caches : state.toServiceCaches = replay start state.log
  headers : ∀ event ∈ state.log, ∀ header, event.header? = some header → data.HasHeader header

theorem tracked_start {state : ContainerState τ V W E} (hlog : state.log = []) :
    Tracked data state.toServiceCaches state := by
  constructor
  · rw [hlog]
    trivial
  · rw [hlog]
    trivial
  · rw [hlog]
    rfl
  · rw [hlog]
    exact fun _ hmem => by cases hmem

theorem Tracked.distinct (hdata : data.WellFormed) (htracked : Tracked data start state) : Distinct state.log :=
  fun event hevent other hother header header' hheader hheader' haddress =>
    hdata.header_eq (htracked.headers event hevent header hheader) (htracked.headers other hother header' hheader')
      haddress

/-- An event that changes nothing but the log. -/
theorem Tracked.record_got (htracked : Tracked data start state) {header : ServiceHeader τ V} {storage : StorageRef}
    {outcome : Except (ServiceException τ E) V} (hheader : data.HasHeader header)
    (hallowed : (ServiceEvent.got header storage outcome).Allowed start state.log) :
    Tracked data start (state.record (.got header storage outcome)) where
  lawful := ⟨htracked.lawful, hallowed⟩
  settled := trivial
  caches := htracked.caches
  headers := by
    intro event hmem header' hheader'
    rcases List.mem_cons.mp hmem with rfl | hmem
    · cases hheader'
      exact hheader
    · exact htracked.headers event hmem header' hheader'

theorem Tracked.afterRun (htracked : Tracked data start state) {header : ServiceHeader τ V} {storage : StorageRef}
    (hheader : data.HasHeader header) (husable : header.Usable = true) (hnone : state.cached header storage = none)
    (outcome : Except (ServiceException τ E) V) : Tracked data start (header.afterRun storage outcome state) where
  lawful := ⟨⟨htracked.lawful, htracked.settled, husable, htracked.caches ▸ hnone⟩, .inl ⟨outcome, _, rfl, rfl⟩⟩
  settled := trivial
  caches := congrArg (ServiceCaches.store header storage outcome) htracked.caches
  headers := by
    intro event hmem header' hheader'
    rcases List.mem_cons.mp hmem with rfl | hmem
    · cases hheader'
      exact hheader
    · rcases List.mem_cons.mp hmem with rfl | hmem
      · cases hheader'
        exact hheader
      · exact htracked.headers event hmem header' hheader'

theorem Tracked.clearStorage (htracked : Tracked data start state) (storage : StorageRef) :
    Tracked data start (state.clearStorage storage) where
  lawful := ⟨htracked.lawful, htracked.settled⟩
  settled := trivial
  caches := congrArg (fun caches => caches.clearStorage storage) htracked.caches
  headers := by
    intro event hmem header' hheader'
    rcases List.mem_cons.mp hmem with rfl | hmem
    · cases hheader'
    · exact htracked.headers event hmem header' hheader'

/-- The step that the invariant takes. -/
def KeepsTracked (data : ContainerData τ V W E) (start : ServiceCaches V) (before after : ContainerState τ V W E) :
    Prop :=
  Tracked data start before → Tracked data start after

theorem serviceProperty_tracked (data : ContainerData τ V W E) (start : ServiceCaches V) :
    ServiceProperty (Run.Moves (KeepsTracked data start)) :=
  serviceProperty_moves (fun _ => id) (fun hfirst hsecond htracked => hsecond (hfirst htracked))
    (fun _ _ htracked => ⟨htracked.lawful, htracked.settled, htracked.caches, htracked.headers⟩)
    (fun storage _ htracked => htracked.clearStorage storage)

/-- A descriptor keeps the invariant if its factory does, and if nothing is kept for it while its factory runs. -/
theorem ServiceHeader.tracked_getInstance {header : ServiceHeader τ V} (hheader : data.HasHeader header)
    {factory : ServiceAction τ V W E V} (hfactory : Run.Moves (KeepsTracked data start) factory)
    (hempty : Run.Moves (KeepsEmpty header.address) factory) (storage : StorageRef) :
    Run.Moves (KeepsTracked data start) (header.getInstance factory storage) := by
  intro state after outcome hexec htracked
  rcases ServiceHeader.getInstance_cases hexec with
    ⟨service, husable, hcached, -, rfl⟩ | ⟨result, mid, husable, hnone, hrun, -, rfl⟩ | ⟨hunusable, -, rfl⟩
  · refine htracked.record_got hheader (.inr ⟨htracked.settled, .inl ⟨husable, service, ?_, rfl⟩⟩)
    rw [← htracked.caches, hcached]
  · exact (hfactory hrun htracked).afterRun hheader husable ((hempty hrun).cached_none hnone) result
  · exact htracked.record_got hheader (.inr ⟨htracked.settled, .inr ⟨hunusable, rfl⟩⟩)

theorem ServiceDescriptor.tracked_getInstance {descriptor : ServiceDescriptor τ V W E}
    (hlayered : descriptor.Layered) (hheaders : ∀ header ∈ descriptor.headers, data.HasHeader header)
    (htracked : ∀ list, descriptor.Resolves data list → ∀ other ∈ data.lists list, ∀ storage,
      Run.Moves (KeepsTracked data start) (resolve other storage))
    (hempty : ∀ header ∈ descriptor.headers, ∀ list, descriptor.Resolves data list → ∀ other ∈ data.lists list,
      ∀ storage, Run.Moves (KeepsEmpty header.address) (resolve other storage)) (storage : StorageRef) :
    Run.Moves (KeepsTracked data start) (descriptor.getInstance data resolve storage) := by
  induction descriptor with
  | registered header factory =>
    exact ServiceHeader.tracked_getInstance (hheaders header (.head _))
      ((serviceProperty_tracked data start).factoryInvoke htracked _ _)
      ((serviceProperty_keepsEmpty _).factoryInvoke (hempty header (.head _)) _ _) storage
  | patched header original func ih =>
    obtain ⟨hnewer, hinner⟩ := hlayered
    have horiginal := ih hinner (fun inner hmem => hheaders inner (.tail _ hmem))
      (fun list hlist => htracked list (.inl hlist))
      (fun inner hmem list hlist => hempty inner (.tail _ hmem) list (.inl hlist))
    have horiginal_empty := ServiceDescriptor.keepsEmpty_getInstance (fun inner hmem => (hnewer inner hmem).ne)
      (fun list hlist => hempty header (.head _) list (.inl hlist)) storage
    exact ServiceHeader.tracked_getInstance (hheaders header (.head _))
      ((serviceProperty_tracked data start).callPatched horiginal (fun list hlist => htracked list (.inr hlist)) storage)
      ((serviceProperty_keepsEmpty _).callPatched horiginal_empty
        (fun list hlist => hempty header (.head _) list (.inr hlist)) storage) storage

/-- Without circles every resolution keeps the invariant. -/
theorem ContainerData.WellFormed.tracked_getInstance (hdata : data.WellFormed) (hacyclic : data.Acyclic)
    {fuel list : Nat} :
    ∀ descriptor ∈ data.lists list, ∀ storage,
      Run.Moves (KeepsTracked data start) (data.getInstance fuel descriptor storage) := by
  induction fuel generalizing list with
  | zero => exact fun _ _ _ => Run.moves_diverge
  | succ fuel ih =>
    intro descriptor hmem storage
    refine ServiceDescriptor.tracked_getInstance (hdata.layered hmem)
      (fun header hheader => ⟨list, descriptor, hmem, hheader⟩)
      (fun other _ => ih) (fun header hheader other hresolves => ?_) storage
    apply ContainerData.keepsEmpty_getInstance
    -- an equal address would make the list depend on itself
    intro further hreach descriptor' hmem' header' hheader' haddress
    obtain ⟨i, hi⟩ := List.getElem?_of_mem hmem
    obtain ⟨j, hj⟩ := List.getElem?_of_mem hmem'
    obtain ⟨rfl, -⟩ := hdata.unique hj hi hheader' hheader haddress
    exact hacyclic _ (Relation.TransGen.head' ⟨descriptor, hmem, hresolves⟩ hreach)

end Tracked

section Answered

/-- How a loop over descriptors may end with some of them left: not at all, or with an exception of the container. -/
def EndsWith {α : Type} (rest : List (ServiceDescriptor τ V W E)) : Except (ServiceException τ E) α → Prop
  | .ok _ => rest = []
  | .error exception => ∃ inner, exception = .container inner

/-- How a call was answered, by what the log says. A get gives what its only registration handed out, and `getMany`
    appends, in registration order, what the registrations handed out, up to the first that failed. -/
def Answered (data : ContainerData τ V W E) (log : List (ServiceEvent τ V E)) :
    ServiceCall τ V → ServiceResult τ V E → Prop
  | .get type storage, .got outcome =>
    (∃ descriptor, data.getDescriptors type = some [descriptor] ∧ .got descriptor.header storage outcome ∈ log) ∨
    (∀ descriptor, data.getDescriptors type ≠ some [descriptor]) ∧
      ∃ exception, outcome = .error (.container exception)
  | .getMany type collection storage, .gotMany outcome collection' =>
    ∃ given rest services, (data.getDescriptors type).getD [] = given ++ rest ∧
      collection' = services.foldl ServiceCollection.add collection ∧
      List.Forall₂ (fun descriptor service => .got descriptor.header storage (.ok service) ∈ log) given services ∧
      EndsWith rest outcome ∧ ∀ count, outcome = .ok count → count = services.length
  | .clear storage, .cleared => .cleared storage ∈ log
  | _, _ => False

/-- A longer log still says so. -/
theorem Answered.mono {log log' : List (ServiceEvent τ V E)} {call : ServiceCall τ V} {result : ServiceResult τ V E}
    (hanswered : Answered data log call result) (hlog : log ⊆ log') : Answered data log' call result := by
  unfold Answered at hanswered ⊢
  split at hanswered
  · exact hanswered.imp_left fun ⟨descriptor, hdescriptor, hmem⟩ => ⟨descriptor, hdescriptor, hlog hmem⟩
  · obtain ⟨given, rest, services, hsplit, hcollection, hgot, houtcome⟩ := hanswered
    exact ⟨given, rest, services, hsplit, hcollection, hgot.imp fun _ _ hmem => hlog hmem, houtcome⟩
  · exact hlog hanswered
  · exact hanswered

/-- The log only grows. -/
def LogGrows (before after : ContainerState τ V W E) : Prop := before.log ⊆ after.log

theorem serviceProperty_logGrows :
    ServiceProperty (Run.Moves (LogGrows (τ := τ) (V := V) (W := W) (E := E))) :=
  serviceProperty_moves (fun _ => List.Subset.refl _) List.Subset.trans (fun _ _ => List.Subset.refl _)
    (fun _ _ => List.subset_cons_self _ _)

theorem ContainerData.logGrows_getInstance (fuel : Nat) (descriptor : ServiceDescriptor τ V W E) (storage : StorageRef) :
    Run.Moves LogGrows (data.getInstance fuel descriptor storage) := by
  refine serviceProperty_logGrows.getInstance Run.moves_diverge (fun header factory storage hfactory => ?_)
    fuel descriptor storage
  intro state after outcome hexec
  rcases ServiceHeader.getInstance_cases hexec with
    ⟨_, -, -, -, rfl⟩ | ⟨result, mid, -, -, hrun, -, rfl⟩ | ⟨-, -, rfl⟩
  · exact List.subset_cons_self _ _
  · exact List.Subset.trans (hfactory hrun) (List.Subset.trans (List.subset_cons_self _ _) (List.subset_cons_self _ _))
  · exact List.subset_cons_self _ _

variable {fuel : Nat} {storage : StorageRef} {state after : ContainerState τ V W E}

/-- What the loop of `getMany` leaves, whether or not it came to its end. -/
theorem addEach_answered {collection : ServiceCollection V} {descriptors : List (ServiceDescriptor τ V W E)}
    {outcome : Except (ServiceException τ E) (Except (ServiceException τ E) Unit × ServiceCollection V)}
    (hexec : exec (addEach (data.getInstance fuel) storage collection descriptors) state = some (outcome, after)) :
    LogGrows state after ∧ ∃ result given rest services,
      outcome = .ok (result, services.foldl ServiceCollection.add collection) ∧ descriptors = given ++ rest ∧
      List.Forall₂ (fun descriptor service => .got descriptor.header storage (.ok service) ∈ after.log) given services ∧
      EndsWith rest result := by
  induction descriptors generalizing collection state with
  | nil =>
    cases hexec
    exact ⟨List.Subset.refl _, .ok (), [], [], [], rfl, rfl, .nil, rfl⟩
  | cons descriptor tail ih =>
    rcases hresolve : exec (data.getInstance fuel descriptor storage) state with _ | ⟨exception | service, mid⟩
    · rw [addEach, Run.exec_bind, Run.exec_attempt, hresolve] at hexec
      cases hexec
    · rw [addEach, Run.exec_bind, Run.exec_attempt, hresolve] at hexec
      cases hexec
      exact ⟨ContainerData.logGrows_getInstance fuel descriptor storage hresolve, .error exception, [], descriptor :: tail, [],
        rfl, rfl, .nil, ContainerData.getInstance_error hresolve⟩
    · rw [addEach, Run.exec_bind, Run.exec_attempt, hresolve] at hexec
      obtain ⟨hgrows, result, given, rest, services, houtcome, hsplit, hgot, hresult⟩ := ih hexec
      obtain ⟨older, hlog⟩ := ContainerData.getInstance_log hresolve
      have hmem : .got descriptor.header storage (.ok service) ∈ after.log := hgrows (hlog ▸ List.mem_cons_self)
      exact ⟨List.Subset.trans (ContainerData.logGrows_getInstance fuel descriptor storage hresolve) hgrows, result,
        descriptor :: given, rest, service :: services, houtcome, by rw [hsplit, List.cons_append], .cons hmem hgot, hresult⟩

theorem ContainerData.call_answered {call : ServiceCall τ V}
    {outcome : Except (ServiceException τ E) (ServiceResult τ V E)}
    (hexec : exec (data.call fuel call) state = some (outcome, after)) :
    ∃ result, outcome = .ok result ∧ Answered data after.log call result := by
  cases call with
  | clear storage =>
    cases hexec
    exact ⟨.cleared, rfl, List.mem_cons_self⟩
  | get type storage =>
    have hthrown : ∀ exception : ContainerException τ E,
        getFrom (data.getInstance fuel) type storage (data.getDescriptors type) = throw (.container exception) →
        (∀ descriptor, data.getDescriptors type ≠ some [descriptor]) →
        ∃ result, outcome = .ok result ∧ Answered data after.log (.get type storage) result := by
      intro exception hthrow hnot
      rw [ContainerData.call, hthrow] at hexec
      cases hexec
      exact ⟨_, rfl, .inr ⟨hnot, exception, rfl⟩⟩
    match hdescriptors : data.getDescriptors type with
    | none => exact hthrown (.notRegistered type) (by rw [hdescriptors]; rfl) (by simp [hdescriptors])
    | some [] => exact hthrown (.notRegistered type) (by rw [hdescriptors]; rfl) (by simp [hdescriptors])
    | some (_ :: _ :: _) =>
      exact hthrown (.registeredMultipleTimes type) (by rw [hdescriptors]; rfl) (by simp [hdescriptors])
    | some [descriptor] =>
      rw [ContainerData.call, hdescriptors, getFrom, Run.exec_bind, Run.exec_attempt] at hexec
      cases hresolve : exec (data.getInstance fuel descriptor storage) state with
      | none =>
        rw [hresolve] at hexec
        cases hexec
      | some result =>
        rw [hresolve] at hexec
        cases hexec
        obtain ⟨older, hlog⟩ := ContainerData.getInstance_log hresolve
        exact ⟨_, rfl, .inl ⟨descriptor, hdescriptors, hlog ▸ List.mem_cons_self⟩⟩
  | getMany type collection storage =>
    rw [ContainerData.call] at hexec
    cases hdescriptors : data.getDescriptors type with
    | none =>
      rw [hdescriptors] at hexec
      cases hexec
      exact ⟨_, rfl, [], [], [], by rw [hdescriptors]; rfl, rfl, .nil, rfl, fun _ hcount => by cases hcount; rfl⟩
    | some descriptors =>
      rw [hdescriptors, getManyFrom, bind_assoc, Run.exec_bind] at hexec
      cases hloop : exec (addEach (data.getInstance fuel) storage collection descriptors) state with
      | none =>
        rw [hloop] at hexec
        cases hexec
      | some looped =>
        obtain ⟨loopOutcome, mid⟩ := looped
        obtain ⟨-, result, given, rest, services, rfl, hsplit, hgot, hresult⟩ := addEach_answered hloop
        rw [hloop] at hexec
        cases hexec
        refine ⟨_, rfl, given, rest, services, by rw [hdescriptors]; exact hsplit, rfl, hgot, ?_⟩
        cases result with
        | error exception => exact ⟨hresult, fun _ hcount => by cases hcount⟩
        | ok _ =>
          refine ⟨hresult, fun count hcount => ?_⟩
          cases hcount
          rw [hsplit, hresult, List.append_nil, hgot.length_eq]

theorem ContainerData.calls_answered {calls : List (ServiceCall τ V)}
    {outcome : Except (ServiceException τ E) (List (ServiceResult τ V E))}
    (hexec : exec (data.calls fuel calls) state = some (outcome, after)) :
    ∃ results, outcome = .ok results ∧ List.Forall₂ (Answered data after.log) calls results := by
  induction calls generalizing state outcome with
  | nil =>
    cases hexec
    exact ⟨[], rfl, .nil⟩
  | cons call rest ih =>
    rw [ContainerData.calls, Run.exec_bind_eq_some] at hexec
    rcases hexec with ⟨exception, hcall, -⟩ | ⟨result, mid, hcall, hrest⟩
    · obtain ⟨_, hok, -⟩ := ContainerData.call_answered hcall
      cases hok
    · rw [Run.exec_bind_eq_some] at hrest
      rcases hrest with ⟨exception, hrest, -⟩ | ⟨results, last, hrest, hpure⟩
      · obtain ⟨_, hok, -⟩ := ih hrest
        cases hok
      · cases hpure
        obtain ⟨_, hok, hanswered⟩ := ih hrest
        cases hok
        obtain ⟨_, hok, hfirst⟩ := ContainerData.call_answered hcall
        cases hok
        have hgrows : LogGrows mid after :=
          serviceProperty_logGrows.calls (fun _ other _ => ContainerData.logGrows_getInstance fuel other) rest hrest
        exact ⟨result :: results, rfl, .cons (hfirst.mono hgrows) hanswered⟩

end Answered

/-- Service lifetimes in a container without circular dependencies. Every sequence of calls comes back, from whatever
    instances are kept at first; every call is answered; the log of all that happened keeps the promises of the
    lifetimes; and what is kept afterwards is what the completed factory calls of the log stored. -/
theorem Container.lifetimes_kept (container : Container τ V W E) (hacyclic : container.Acyclic) {fuel : Nat}
    (hfuel : container.nextList < fuel) (calls : List (ServiceCall τ V)) (state : ContainerState τ V W E)
    (hlog : state.log = []) :
    ∃ results after, exec (container.calls fuel calls) state = some (.ok results, after) ∧
      List.Forall₂ (Answered container.toContainerData after.log) calls results ∧
      LifetimesKept state.toServiceCaches after.log ∧
      after.toServiceCaches = replay state.toServiceCaches after.log := by
  have hdata := container.wellFormed
  have htotal : Run.Total (container.calls fuel calls) := serviceProperty_total.calls
    (fun list => hdata.total_getInstance hacyclic (ContainerData.reach_lt hfuel list)) calls
  have hmoves : Run.Moves (KeepsTracked container.toContainerData state.toServiceCaches) (container.calls fuel calls) :=
    (serviceProperty_tracked _ _).calls (fun list => hdata.tracked_getInstance hacyclic) calls
  obtain ⟨outcome, after, hexec⟩ := htotal state
  obtain ⟨results, rfl, hanswered⟩ := ContainerData.calls_answered hexec
  have htracked : Tracked container.toContainerData state.toServiceCaches after := hmoves hexec (tracked_start hlog)
  exact ⟨results, after, hexec, hanswered,
    htracked.lawful.lifetimesKept htracked.settled (htracked.distinct hdata), htracked.caches⟩

/-- A transient service that injects a persistent one, which counts the calls of its factory in the world. -/
def injectingContainer : Container Nat Nat Nat Unit :=
  (Container.empty.add ⟨1, true, .implementation [(0, .single)] (fun arguments => .returns arguments.length) .Transient⟩).add
    ⟨0, true, .function (fun _ => .effect (· + 1) .returns) .Persistent⟩

theorem injectingContainer_dependsOn {list other : Nat} (hdepends : injectingContainer.DependsOn list other) :
    list = 1 ∧ other = 0 := by
  obtain ⟨descriptor, hmem, hresolves⟩ := hdepends
  match list with
  | 0 =>
    obtain rfl := List.mem_singleton.mp hmem
    obtain ⟨storage, type, ⟨world, huses⟩, -⟩ := hresolves
    exact huses.elim
  | 1 =>
    obtain rfl := List.mem_singleton.mp hmem
    rcases hresolves with ⟨dependency, hin, rfl⟩ | ⟨arguments, type, huses, -⟩
    · obtain rfl := List.mem_singleton.mp hin
      exact ⟨rfl, rfl⟩
    · exact huses.elim
  | list + 2 => cases hmem

theorem injectingContainer_acyclic : injectingContainer.Acyclic := by
  intro list hcycle
  obtain ⟨_, hfirst, -⟩ := Relation.TransGen.head'_iff.mp hcycle
  obtain ⟨_, -, hlast⟩ := Relation.TransGen.tail'_iff.mp hcycle
  have hone := (injectingContainer_dependsOn hfirst).1
  have hzero := (injectingContainer_dependsOn hlast).2
  omega

theorem Container.lifetimes_kept_injecting :
    ∃ results after, exec (injectingContainer.calls 3 [.get 1 .builtin, .get 0 (.other 8), .get 1 .builtin])
        (ContainerState.fresh 0) = some (.ok results, after) ∧
      List.Forall₂ (Answered injectingContainer.toContainerData after.log)
        [.get 1 .builtin, .get 0 (.other 8), .get 1 .builtin] results ∧
      LifetimesKept (ContainerState.fresh (τ := Nat) (V := Nat) (E := Unit) 0).toServiceCaches after.log ∧
      after.toServiceCaches = replay (ContainerState.fresh (τ := Nat) (V := Nat) (E := Unit) 0).toServiceCaches after.log :=
  Container.lifetimes_kept injectingContainer injectingContainer_acyclic (by decide) _ _ rfl

example : (exec (injectingContainer.calls 3 [.get 1 .builtin, .get 0 (.other 8), .get 0 .builtin])
    (ContainerState.fresh 0)).map (fun result => result.2.world) = some 1 := by decide

end cpv
