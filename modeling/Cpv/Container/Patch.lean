import Cpv.Container.LifetimesKept

namespace cpv

open Run (exec)

variable {τ V W E : Type}

/-- Code that changes the world outside of the container and returns a service, without calling the container. -/
def ServiceProgram.Computes : ServiceProgram τ V W E → V → Prop
  | .returns service, result => service = result
  | .effect _ next, result => ∀ world, (next world).Computes result
  | _, _ => False

/-- A function to patch services with. What it returns depends on the service it is given. -/
structure PatchFunction (τ V W E : Type) where
  code : StorageRef → V → ServiceProgram τ V W E
  apply : V → V
  computes : ∀ storage service, (code storage service).Computes (apply service)

/-- Several functions, the first applied first. -/
def applyAll (functions : List (PatchFunction τ V W E)) (service : V) : V :=
  functions.foldl (fun result function => function.apply result) service

/-- A sequence of `patch` calls for a type, with what they return. -/
def Container.patchAll (container : Container τ V W E) (type : τ) :
    List (PatchFunction τ V W E) → List Nat × Container τ V W E
  | [] => ([], container)
  | function :: rest =>
    let (count, container) := container.patch type function.code
    let (counts, container) := container.patchAll type rest
    (count :: counts, container)

/-- The services that descriptors yield, one after the other. -/
inductive Yields (resolve : ServiceDescriptor τ V W E → StorageRef → ServiceAction τ V W E V) (storage : StorageRef) :
    List (ServiceDescriptor τ V W E) → ContainerState τ V W E → List V → ContainerState τ V W E → Prop
  | nil (state : ContainerState τ V W E) : Yields resolve storage [] state [] state
  | cons {descriptor : ServiceDescriptor τ V W E} {rest : List (ServiceDescriptor τ V W E)}
      {state mid after : ContainerState τ V W E} {service : V} {services : List V}
      (hfirst : exec (resolve descriptor storage) state = some (.ok service, mid))
      (hrest : Yields resolve storage rest mid services after) :
      Yields resolve storage (descriptor :: rest) state (service :: services) after

/-- A state reached by calls on the patched container, where nothing was kept at first under addresses that were not
    allocated before the patches. -/
def Afterwards (container : Container τ V W E) (type : τ) (functions : List (PatchFunction τ V W E))
    (state : ContainerState τ V W E) : Prop :=
  ∃ (start : ContainerState τ V W E) (fuel : Nat) (calls : List (ServiceCall τ V))
    (outcome : Except (ServiceException τ E) (List (ServiceResult τ V E))),
    (∀ address, container.nextDescriptor ≤ address →
      start.instances address = none ∧ ∀ storage, (start.storages storage).get address = none) ∧
    exec ((container.patchAll type functions).2.calls fuel calls) start = some (outcome, state)

/-- The descriptors that were registered before the patches yield these services. -/
def OriginalsYield (container : Container τ V W E) (type : τ) (functions : List (PatchFunction τ V W E)) (fuel : Nat)
    (storage : StorageRef) (state : ContainerState τ V W E) (services : List V) (after : ContainerState τ V W E) : Prop :=
  Yields ((container.patchAll type functions).2.getInstance fuel) storage (container.registered type) state services
    after

/-- The constructor argument that a list of services makes, if it makes one. -/
def argumentOf (kind : DependencyKind) (services : List V) : Option (ServiceArgument V) :=
  match kind, services with
  | .single, [service] => some (.single service)
  | .single, _ => none
  | .vector, services => some (.collection (.vector services))
  | .optional, services => some (.collection (.optional services.getLast?))

/-- What `patch` promises. -/
structure PatchedAsPromised (container : Container τ V W E) (type : τ) (functions : List (PatchFunction τ V W E)) :
    Prop where
  /-- Every call returns the number of services. -/
  returns : ∀ count ∈ (container.patchAll type functions).1, count = (container.registered type).length
  /-- Every registration keeps its lifetime. -/
  lifetimes : ((container.patchAll type functions).2.registered type).map ServiceDescriptor.getLifetime =
    (container.registered type).map ServiceDescriptor.getLifetime
  /-- `getMany` yields the original services with all functions applied. -/
  getMany : ∀ {fuel storage state services mid}, Afterwards container type functions state →
    OriginalsYield container type functions fuel storage state services mid → ∀ items, ∃ after,
      exec ((container.patchAll type functions).2.call fuel (.getMany type (.vector items) storage)) state =
        some (.ok (.gotMany (.ok services.length) (.vector (items ++ services.map (applyAll functions)))), after)
  /-- Constructors that inject the type get them as well. -/
  injected : ∀ {fuel storage state services mid}, Afterwards container type functions state →
    OriginalsYield container type functions fuel storage state services mid →
    ∀ {list descriptor dependency argument}, descriptor ∈ (container.patchAll type functions).2.lists list →
      dependency ∈ descriptor.dependencies → dependency.type = type →
      argumentOf dependency.kind (services.map (applyAll functions)) = some argument → ∃ after,
        exec (getDependencyInstance (container.patchAll type functions).2.toContainerData
          ((container.patchAll type functions).2.getInstance fuel) storage dependency) state =
            some (.ok argument, after)

/-- There is no state afterwards in which all original services can be had. -/
def NeverAll (container : Container τ V W E) (type : τ) (functions : List (PatchFunction τ V W E)) : Prop :=
  ∀ fuel storage state services mid, Afterwards container type functions state →
    ¬ OriginalsYield container type functions fuel storage state services mid

section Yields

variable {resolve : ServiceDescriptor τ V W E → StorageRef → ServiceAction τ V W E V} {storage : StorageRef}
  {descriptors : List (ServiceDescriptor τ V W E)} {state after : ContainerState τ V W E}

theorem Yields.length_eq {services : List V} (hyields : Yields resolve storage descriptors state services after) :
    services.length = descriptors.length := by
  induction hyields with
  | nil state => rfl
  | cons hfirst hrest ih => rw [List.length_cons, List.length_cons, ih]

/-- The loop of `getMany` comes to its end exactly when every descriptor yields a service. -/
theorem addEach_ok_iff {collection result : ServiceCollection V} :
    exec (addEach resolve storage collection descriptors) state = some (.ok (.ok (), result), after) ↔
      ∃ services, Yields resolve storage descriptors state services after ∧
        result = services.foldl ServiceCollection.add collection := by
  induction descriptors generalizing collection state with
  | nil =>
    constructor
    · intro hexec
      cases hexec
      exact ⟨[], .nil _, rfl⟩
    · rintro ⟨services, hyields, rfl⟩
      cases hyields
      rfl
  | cons descriptor rest ih =>
    constructor
    · intro hexec
      rw [addEach, Run.exec_bind, Run.exec_attempt] at hexec
      rcases hresolve : exec (resolve descriptor storage) state with _ | ⟨exception | service, mid⟩ <;>
        rw [hresolve] at hexec
      · cases hexec
      · cases hexec
      · obtain ⟨services, hyields, rfl⟩ := ih.mp hexec
        exact ⟨service :: services, .cons hresolve hyields, rfl⟩
    · rintro ⟨services, hyields, rfl⟩
      cases hyields with
      | cons hfirst hrest =>
        rw [addEach, Run.exec_bind, Run.exec_attempt, hfirst]
        exact ih.mpr ⟨_, hrest, rfl⟩

theorem foldl_add_vector (items services : List V) :
    services.foldl ServiceCollection.add (.vector items) = .vector (items ++ services) := by
  induction services generalizing items with
  | nil => rw [List.append_nil, List.foldl_nil]
  | cons service rest ih => rw [List.foldl_cons, ServiceCollection.add, ih, List.append_assoc, List.singleton_append]

theorem foldl_add_optional (item : Option V) (services : List V) :
    services.foldl ServiceCollection.add (.optional item) = .optional (services.getLast?.or item) := by
  induction services generalizing item with
  | nil => rfl
  | cons service rest ih =>
    rw [List.foldl_cons, ServiceCollection.add, ih]
    cases rest with
    | nil => rfl
    | cons next rest =>
      rw [List.getLast?_cons_cons]
      cases hlast : (next :: rest).getLast? with
      | none => rw [List.getLast?_eq_none_iff] at hlast; cases hlast
      | some last => rfl

theorem Yields.getMany {services : List V} (hyields : Yields resolve storage descriptors state services after)
    (collection : ServiceCollection V) :
    exec (getManyFrom resolve collection storage (some descriptors)) state =
      some (.ok (.ok services.length, services.foldl ServiceCollection.add collection), after) := by
  have hloop : exec (addEach resolve storage collection descriptors) state =
      some (.ok (.ok (), services.foldl ServiceCollection.add collection), after) :=
    addEach_ok_iff.mpr ⟨services, hyields, rfl⟩
  rw [getManyFrom, Run.exec_bind_ok hloop, hyields.length_eq]
  rfl

theorem Yields.getFrom {service : V} (hyields : Yields resolve storage descriptors state [service] after) (type : τ) :
    exec (getFrom resolve type storage (some descriptors)) state = some (.ok service, after) := by
  cases hyields with
  | cons hfirst hrest =>
    cases hrest
    exact hfirst

/-- A dependency is given what the descriptors of its list yield. -/
theorem Yields.getDependencyInstance {data : ContainerData τ V W E} {dependency : ServiceDependency τ}
    {services : List V} {argument : ServiceArgument V}
    (hyields : Yields resolve storage (data.lists dependency.descriptors) state services after)
    (hargument : argumentOf dependency.kind services = some argument) :
    exec (getDependencyInstance data resolve storage dependency) state = some (.ok argument, after) := by
  unfold cpv.getDependencyInstance
  cases hkind : dependency.kind with
  | single =>
    rw [hkind] at hargument
    match services with
    | [service] =>
      cases hargument
      exact Run.exec_bind_ok (hyields.getFrom dependency.type)
  | vector =>
    rw [hkind] at hargument
    cases hargument
    refine (Run.exec_bind_ok (hyields.getMany (.vector []))).trans ?_
    rw [foldl_add_vector, List.nil_append]
    rfl
  | optional =>
    rw [hkind] at hargument
    cases hargument
    refine (Run.exec_bind_ok (hyields.getMany (.optional none))).trans ?_
    rw [foldl_add_optional, Option.or_none]
    rfl

end Yields

section Patch

variable (data : ContainerData τ V W E) (type : τ) (func : StorageRef → V → ServiceProgram τ V W E)

theorem ContainerData.patch_count : (data.patch type func).1 = (data.registered type).length := by
  unfold patch registered getDescriptors
  cases data.descriptorsMap type <;> rfl

theorem ContainerData.patch_registered : (data.patch type func).2.registered type =
    patchDescriptors data.nextDescriptor (some func) (data.registered type) := by
  unfold patch registered getDescriptors
  cases hlist : data.descriptorsMap type with
  | none =>
    simp only [hlist]
    rfl
  | some list => simp only [hlist, Option.map_some, Function.update_self, Option.getD_some]

theorem ContainerData.patch_nextDescriptor :
    (data.patch type func).2.nextDescriptor = data.nextDescriptor + (data.registered type).length := by
  unfold patch registered getDescriptors
  cases data.descriptorsMap type <;> rfl

end Patch

namespace Container

variable {container : Container τ V W E} {type : τ}

theorem patch_registered (func : StorageRef → V → ServiceProgram τ V W E) :
    (container.patch type func).2.registered type =
      ContainerData.patchDescriptors container.nextDescriptor (some func) (container.registered type) :=
  container.toContainerData.patch_registered type func

theorem patch_length (func : StorageRef → V → ServiceProgram τ V W E) :
    ((container.patch type func).2.registered type).length = (container.registered type).length := by
  rw [patch_registered, ContainerData.length_patchDescriptors]

theorem getLifetime_patchDescriptors (next : Nat) (func : Option (StorageRef → V → ServiceProgram τ V W E))
    (descriptors : List (ServiceDescriptor τ V W E)) :
    (ContainerData.patchDescriptors next func descriptors).map ServiceDescriptor.getLifetime =
      descriptors.map ServiceDescriptor.getLifetime := by
  induction descriptors generalizing next func with
  | nil => rfl
  | cons descriptor rest ih => exact congrArg (descriptor.getLifetime :: ·) (ih _ _)

theorem patchAll_returns (functions : List (PatchFunction τ V W E)) :
    ∀ count ∈ (container.patchAll type functions).1, count = (container.registered type).length := by
  induction functions generalizing container with
  | nil => exact fun count hmem => by cases hmem
  | cons function rest ih =>
    intro count hmem
    rcases List.mem_cons.mp hmem with rfl | hmem
    · exact container.toContainerData.patch_count type function.code
    · exact (ih count hmem).trans (patch_length function.code)

theorem patchAll_lifetimes (functions : List (PatchFunction τ V W E)) :
    ((container.patchAll type functions).2.registered type).map ServiceDescriptor.getLifetime =
      (container.registered type).map ServiceDescriptor.getLifetime := by
  induction functions generalizing container with
  | nil => rfl
  | cons function rest ih =>
    refine (@ih (container.patch type function.code).2).trans ?_
    rw [patch_registered, getLifetime_patchDescriptors]

/-- After a patch of several services the wrapper of the second holds no function. -/
theorem patchAll_second {functions : List (PatchFunction τ V W E)} (hfunctions : functions ≠ [])
    (hseveral : 1 < (container.registered type).length) :
    ∃ header original, ((container.patchAll type functions).2.registered type)[1]? = some (.patched header original none) ∧
      header.instance_ = none ∧ container.nextDescriptor ≤ header.address := by
  induction functions generalizing container with
  | nil => exact absurd rfl hfunctions
  | cons function rest ih =>
    cases rest with
    | nil =>
      have hsecond := ContainerData.getElem?_patchDescriptors container.nextDescriptor (some function.code)
        (container.registered type) 1
      rw [List.getElem?_eq_getElem hseveral, Option.map_some, ← patch_registered] at hsecond
      exact ⟨_, _, hsecond, rfl, Nat.le_add_right ..⟩
    | cons function' rest =>
      obtain ⟨header, original, hsecond, hinstance, haddress⟩ := @ih (container.patch type function.code).2
        (List.cons_ne_nil _ _) (by rwa [patch_length])
      have hnext : (container.patch type function.code).2.nextDescriptor =
          container.nextDescriptor + (container.registered type).length :=
        container.toContainerData.patch_nextDescriptor type function.code
      exact ⟨header, original, hsecond, hinstance, by omega⟩

end Container

section NoFunction

variable {data : ContainerData τ V W E} {header : ServiceHeader τ V} {original : ServiceDescriptor τ V W E}
  {list : Nat}

theorem callPatched_none {resolve : ServiceDescriptor τ V W E → StorageRef → ServiceAction τ V W E V}
    {action : ServiceAction τ V W E V} {storage : StorageRef} {state after : ContainerState τ V W E} {service : V} :
    exec (callPatched data resolve action none storage) state ≠ some (.ok service, after) := by
  intro hexec
  rcases Run.exec_bind_eq_some.mp hexec with ⟨exception, -, hok⟩ | ⟨inner, mid, -, hthrow⟩
  · cases hok
  · cases hthrow

/-- A wrapper without a function hands nothing out that it did not have before. -/
theorem getInstance_noFunction {fuel : Nat} {storage : StorageRef} {state after : ContainerState τ V W E} {service : V}
    (hnone : state.cached header storage = none) :
    exec (data.getInstance fuel (.patched header original none) storage) state ≠ some (.ok service, after) := by
  intro hexec
  cases fuel with
  | zero => cases hexec
  | succ fuel =>
    rcases ServiceHeader.getInstance_cases hexec with
      ⟨_, -, hcached, -, -⟩ | ⟨result, mid, -, -, hrun, hsurfaced, -⟩ | ⟨-, hmisuse, -⟩
    · rw [hnone] at hcached
      cases hcached
    · rw [ServiceHeader.surfaced_ok hsurfaced.symm] at hrun
      exact callPatched_none hrun
    · cases hmisuse

/-- Nothing ever comes to be kept for a wrapper without a function. -/
theorem ContainerData.WellFormed.keepsEmpty_noFunction (hdata : data.WellFormed)
    (hmem : .patched header original none ∈ data.lists list) (fuel : Nat) :
    ∀ other, ∀ descriptor ∈ data.lists other, ∀ storage,
      Run.Moves (KeepsEmpty header.address) (data.getInstance fuel descriptor storage) := by
  induction fuel with
  | zero => exact fun _ _ _ _ => Run.moves_diverge
  | succ fuel ih =>
    intro other descriptor hother storage
    obtain ⟨i, hi⟩ := List.getElem?_of_mem hmem
    obtain ⟨j, hj⟩ := List.getElem?_of_mem hother
    by_cases hsame : other = list ∧ j = i
    · obtain ⟨rfl, rfl⟩ := hsame
      obtain rfl := Option.some.inj (hj.symm.trans hi)
      obtain ⟨hnewer, -⟩ := hdata.layered hmem
      have horiginal := ServiceDescriptor.keepsEmpty_getInstance (fun inner hinner => (hnewer inner hinner).ne)
        (fun list _ => ih list) storage
      intro state after outcome hexec
      rcases ServiceHeader.getInstance_cases hexec with
        ⟨_, -, -, -, rfl⟩ | ⟨result, mid, -, -, hrun, -, rfl⟩ | ⟨-, -, rfl⟩
      · exact KeepsEmpty.refl _ state
      · have hcall := (serviceProperty_keepsEmpty header.address).callPatched horiginal
          (fun list _ => ih list) storage hrun
        rcases result with exception | service
        · exact hcall
        · exact absurd hrun callPatched_none
      · exact KeepsEmpty.refl _ state
    · refine ServiceDescriptor.keepsEmpty_getInstance (fun inner hinner haddress => hsame ?_) (fun list _ => ih list) storage
      exact hdata.unique hj hi hinner (.head _) haddress

end NoFunction

end cpv
