import Cpv.Container.Instance
import Cpv.Container.WellFormed
import Mathlib.Data.List.Forall2

namespace cpv

open Run (exec)

variable {τ V W E : Type}

/-- A descriptor is what `add` makes of a registration. The address and the lists captured are the container's own
    business, and not part of it. -/
def ServiceRegistration.Represents (registration : ServiceRegistration τ V W E) (descriptor : ServiceDescriptor τ V W E) :
    Prop :=
  ∃ address lifetime instance_ factory,
    descriptor = .registered ⟨address, registration.type, registration.copyConstructible, lifetime, instance_⟩ factory ∧
    match registration.source with
    | .implementation dependencyTypes construct lifetime' => lifetime = lifetime' ∧ instance_ = none ∧
      ∃ dependencies, factory = .injection dependencies construct ∧
        dependencies.map (fun dependency => (dependency.type, dependency.kind)) = dependencyTypes
    | .value service => lifetime = .Persistent ∧ instance_ = some service ∧ factory = .exception
    | .function func lifetime' => lifetime = lifetime' ∧ instance_ = none ∧ factory = .function func

namespace ContainerData

section Add

variable {data : ContainerData τ V W E}

theorem WellFormed.createDescriptor (hdata : data.WellFormed) (type : τ) (copyConstructible : Bool)
    (lifetime : ServiceLifetime) (instance_ : Option V) (factory : ServiceFactory τ V W E) :
    (data.createDescriptor type copyConstructible lifetime instance_ factory).2.WellFormed :=
  { hdata with address_lt := fun hmem hheader => Nat.lt_succ_of_lt (hdata.address_lt hmem hheader) }

variable [DecidableEq τ]

/-- A list allocated for a type that has no registrations yet makes no difference. -/
theorem WellFormed.registered_getOrCreate (hdata : data.WellFormed) (type other : τ) :
    (data.getOrCreateEmptyDescriptors type).2.registered other = data.registered other := by
  unfold ContainerData.getOrCreateEmptyDescriptors
  split
  · rfl
  · rename_i hnone
    simp only [registered, getDescriptors, hdata.update_nextList, Function.update_apply]
    split
    · rename_i heq
      rw [heq, hnone]
      exact hdata.unallocated (Nat.le_refl _)
    · rfl

theorem registered_getDependencyDescriptors (hdata : data.WellFormed) (dependencyTypes : List (τ × DependencyKind))
    (type : τ) : (data.getDependencyDescriptors dependencyTypes).2.registered type = data.registered type := by
  induction dependencyTypes generalizing data with
  | nil => rfl
  | cons dependencyType rest ih =>
    exact (ih (hdata.getOrCreateEmptyDescriptors dependencyType.1)).trans (hdata.registered_getOrCreate _ type)

theorem map_getDependencyDescriptors (data : ContainerData τ V W E) (dependencyTypes : List (τ × DependencyKind)) :
    (data.getDependencyDescriptors dependencyTypes).1.map (fun dependency => (dependency.type, dependency.kind)) =
      dependencyTypes := by
  induction dependencyTypes generalizing data with
  | nil => rfl
  | cons dependencyType rest ih => exact congrArg (dependencyType :: ·) (ih _)

/-- A descriptor goes to the end of the list of its type, and nowhere else. -/
theorem WellFormed.registered_addDescriptor (hdata : data.WellFormed) (type other : τ)
    (descriptor : ServiceDescriptor τ V W E) :
    (data.addDescriptor type descriptor).registered other =
      data.registered other ++ if type = other then [descriptor] else [] := by
  have hcreated := hdata.getOrCreateEmptyDescriptors type
  have hpointer := getOrCreateEmptyDescriptors_pointer data type
  rw [← hdata.registered_getOrCreate type other]
  simp only [ContainerData.addDescriptor]
  generalize data.getOrCreateEmptyDescriptors type = created at hcreated hpointer
  obtain ⟨list, data'⟩ := created
  simp only [registered, getDescriptors] at hpointer ⊢
  split
  · rename_i heq
    rw [← heq, hpointer]
    exact Function.update_self ..
  · rename_i hne
    rw [List.append_nil]
    cases hother : data'.descriptorsMap other with
    | none => rfl
    | some list' =>
      have hlist : list' ≠ list := by
        rintro rfl
        exact hne (hcreated.list_inj hpointer hother)
      exact Function.update_of_ne hlist ..

theorem WellFormed.registered_create (hdata : data.WellFormed) (type : τ) (copyConstructible : Bool)
    (lifetime : ServiceLifetime) (instance_ : Option V) (factory : ServiceFactory τ V W E) (other : τ) :
    ((data.createDescriptor type copyConstructible lifetime instance_ factory).2.addDescriptor type
      (data.createDescriptor type copyConstructible lifetime instance_ factory).1).registered other =
      data.registered other ++ if type = other then
        [.registered ⟨data.nextDescriptor, type, copyConstructible, lifetime, instance_⟩ factory] else [] :=
  (hdata.createDescriptor type copyConstructible lifetime instance_ factory).registered_addDescriptor type other _

/-- `add` appends a descriptor of the registration to the list of its type. -/
theorem WellFormed.registered_add (hdata : data.WellFormed) (registration : ServiceRegistration τ V W E) :
    ∃ descriptor, registration.Represents descriptor ∧ ∀ type, (data.add registration).registered type =
      data.registered type ++ if registration.type = type then [descriptor] else [] := by
  obtain ⟨type, copyConstructible, source⟩ := registration
  cases source with
  | implementation dependencyTypes construct lifetime =>
    obtain ⟨hwell, -, -⟩ := getDependencyDescriptors_spec hdata dependencyTypes
    have hcreate := hwell.registered_create type copyConstructible lifetime none
      (.injection (data.getDependencyDescriptors dependencyTypes).1 construct)
    have hregistered := registered_getDependencyDescriptors hdata dependencyTypes
    exact ⟨_, ⟨_, lifetime, none, _, rfl, rfl, rfl, _, rfl, map_getDependencyDescriptors data dependencyTypes⟩,
      fun other => (hcreate other).trans (congrArg (· ++ _) (hregistered other))⟩
  | value service =>
    exact ⟨_, ⟨_, .Persistent, some service, .exception, rfl, rfl, rfl, rfl⟩,
      hdata.registered_create type copyConstructible .Persistent (some service) .exception⟩
  | function func lifetime =>
    exact ⟨_, ⟨_, lifetime, none, .function func, rfl, rfl, rfl, rfl⟩,
      hdata.registered_create type copyConstructible lifetime none (.function func)⟩

end Add

end ContainerData

/-- A sequence of `add` calls. -/
def Container.addAll [DecidableEq τ] (container : Container τ V W E)
    (registrations : List (ServiceRegistration τ V W E)) : Container τ V W E :=
  registrations.foldl Container.add container

/-- The descriptors of a type represent its registrations, in their order. -/
theorem Container.registered_addAll [DecidableEq τ] (container : Container τ V W E)
    (registrations : List (ServiceRegistration τ V W E)) (type : τ) :
    ∃ added, (container.addAll registrations).registered type = container.registered type ++ added ∧
      List.Forall₂ ServiceRegistration.Represents
        (registrations.filter fun registration => registration.type = type) added := by
  induction registrations generalizing container with
  | nil => exact ⟨[], (List.append_nil _).symm, .nil⟩
  | cons registration rest ih =>
    obtain ⟨added, hadded, hrest⟩ := ih (container.add registration)
    obtain ⟨descriptor, hrepresents, happend⟩ := container.wellFormed.registered_add registration
    have hfirst : (container.add registration).registered type =
        container.registered type ++ if registration.type = type then [descriptor] else [] := happend type
    rw [hfirst, List.append_assoc] at hadded
    refine ⟨_, hadded, ?_⟩
    by_cases htype : registration.type = type
    · rw [List.filter_cons_of_pos (by simpa using htype), if_pos htype]
      exact .cons hrepresents hrest
    · rw [List.filter_cons_of_neg (by simpa using htype), if_neg htype]
      exact hrest

/-- Two descriptors made from the same registration. -/
def Alike (descriptor descriptor' : ServiceDescriptor τ V W E) : Prop :=
  ∃ registration : ServiceRegistration τ V W E,
    registration.Represents descriptor ∧ registration.Represents descriptor'

/-- Two factories that differ at most in the lists they captured. -/
inductive ServiceFactory.Alike : ServiceFactory τ V W E → ServiceFactory τ V W E → Prop
  | injection {dependencies dependencies' : List (ServiceDependency τ)}
      (construct : List (ServiceArgument V) → ServiceProgram τ V W E)
      (hsame : dependencies.map (fun dependency => (dependency.type, dependency.kind)) =
        dependencies'.map fun dependency => (dependency.type, dependency.kind)) :
      Alike (.injection dependencies construct) (.injection dependencies' construct)
  | function (func : StorageRef → ServiceProgram τ V W E) : Alike (.function func) (.function func)
  | exception : Alike .exception .exception

theorem Alike.cases {descriptor descriptor' : ServiceDescriptor τ V W E} (halike : Alike descriptor descriptor') :
    ∃ header address' factory factory', descriptor = .registered header factory ∧
      descriptor' = .registered { header with address := address' } factory' ∧ factory.Alike factory' := by
  obtain ⟨⟨type, copyConstructible, source⟩, ⟨address, lifetime, instance_, factory, rfl, hsource⟩,
    address', lifetime', instance_', factory', rfl, hsource'⟩ := halike
  refine ⟨_, address', factory, factory', rfl, ?_, ?_⟩
  · cases source <;> simp_all
  · cases source with
    | implementation dependencyTypes construct lifetime =>
      obtain ⟨-, -, dependencies, rfl, hdependencies⟩ := hsource
      obtain ⟨-, -, dependencies', rfl, hdependencies'⟩ := hsource'
      exact .injection construct (hdependencies.trans hdependencies'.symm)
    | value service =>
      obtain ⟨-, -, rfl⟩ := hsource
      obtain ⟨-, -, rfl⟩ := hsource'
      exact .exception
    | function func lifetime =>
      obtain ⟨-, -, rfl⟩ := hsource
      obtain ⟨-, -, rfl⟩ := hsource'
      exact .function func

/-- Two containers with the same registrations, type by type. -/
def SameServices (data data' : ContainerData τ V W E) : Prop :=
  ∀ type, List.Forall₂ Alike (data.registered type) (data'.registered type)

/-- The descriptors that stand at the same place of the same type. -/
def SamePlace (data data' : ContainerData τ V W E) (descriptor descriptor' : ServiceDescriptor τ V W E) : Prop :=
  ∃ (type : τ) (i : Nat), (data.registered type)[i]? = some descriptor ∧ (data'.registered type)[i]? = some descriptor'

/-- States of two containers in which the world is the same and the same is kept for every registration. The logs,
    which name addresses, may differ. -/
structure SameState (data data' : ContainerData τ V W E) (state state' : ContainerState τ V W E) : Prop where
  world : state.world = state'.world
  instances : ∀ {descriptor descriptor'}, SamePlace data data' descriptor descriptor' →
    state.instances descriptor.header.address = state'.instances descriptor'.header.address
  storages : ∀ {descriptor descriptor'}, SamePlace data data' descriptor descriptor' → ∀ storage,
    (state.storages storage).get descriptor.header.address = (state'.storages storage).get descriptor'.header.address

section Simulation

variable {data data' : ContainerData τ V W E} {state state' : ContainerState τ V W E}

/-- Descriptors at the same place have the same address where others at the same place do. -/
theorem SamePlace.address_iff (hdata : data.WellFormed) (hdata' : data'.WellFormed)
    {first first' second second' : ServiceDescriptor τ V W E} (hfirst : SamePlace data data' first first')
    (hsecond : SamePlace data data' second second') :
    first.header.address = second.header.address ↔ first'.header.address = second'.header.address := by
  obtain ⟨type, i, hget, hget'⟩ := hfirst
  obtain ⟨other, j, hother, hother'⟩ := hsecond
  constructor
  · intro heq
    obtain ⟨rfl, rfl⟩ := hdata.place_eq hget hother heq
    rw [hget'] at hother'
    rw [Option.some.inj hother']
  · intro heq
    obtain ⟨rfl, rfl⟩ := hdata'.place_eq hget' hother' heq
    rw [hget] at hother
    rw [Option.some.inj hother]

theorem SameState.changeWorld (hsame : SameState data data' state state') (update : W → W) :
    SameState data data' (state.changeWorld update) (state'.changeWorld update) :=
  ⟨congrArg update hsame.world, hsame.instances, hsame.storages⟩

theorem SameState.record (hsame : SameState data data' state state') (event event' : ServiceEvent τ V E) :
    SameState data data' (state.record event) (state'.record event') :=
  ⟨hsame.world, hsame.instances, hsame.storages⟩

theorem SameState.clearStorage (hsame : SameState data data' state state') (storage : StorageRef) :
    SameState data data' (state.clearStorage storage) (state'.clearStorage storage) := by
  refine ⟨hsame.world, hsame.instances, fun hplace other => ?_⟩
  simp only [ContainerState.clearStorage, ContainerState.changeCaches, ContainerState.record,
    ServiceCaches.clearStorage, Function.update_apply]
  split
  · rfl
  · exact hsame.storages hplace other

/-- The same is stored for descriptors at the same place. -/
theorem SameState.store (hdata : data.WellFormed) (hdata' : data'.WellFormed)
    (hsame : SameState data data' state state') {descriptor descriptor' : ServiceDescriptor τ V W E}
    (hplace : SamePlace data data' descriptor descriptor')
    (hlifetime : descriptor.header.lifetime = descriptor'.header.lifetime) (storage : StorageRef)
    (outcome : Except (ServiceException τ E) V) :
    SameState data data' (state.changeCaches (ServiceCaches.store descriptor.header storage outcome))
      (state'.changeCaches (ServiceCaches.store descriptor'.header storage outcome)) := by
  rcases outcome with exception | service
  · exact hsame
  · simp only [ContainerState.changeCaches, ServiceCaches.store, ← hlifetime]
    cases descriptor.header.lifetime with
    | Transient => exact hsame
    | Persistent =>
      refine ⟨hsame.world, fun hother => ?_, hsame.storages⟩
      simp only [ServiceCaches.setInstance, Function.update_apply,
        SamePlace.address_iff hdata hdata' hother hplace, hsame.instances hother]
    | StoragePersistent =>
      refine ⟨hsame.world, hsame.instances, fun hother storage' => ?_⟩
      simp only [ServiceCaches.setStored, Function.update_apply]
      split
      · rw [ServiceStorage.get_set, ServiceStorage.get_set, hsame.storages hother]
        simp only [SamePlace.address_iff hdata hdata' hother hplace]
      · exact hsame.storages hother storage'
    | other value => exact hsame

/-- Descriptors at the same place that are made from the same registration get corresponding instances, if their
    factories do. -/
theorem SameState.simulates_getInstance (hdata : data.WellFormed) (hdata' : data'.WellFormed)
    {header : ServiceHeader τ V} {address' : Nat} {factory factory' : ServiceFactory τ V W E}
    (hplace : SamePlace data data' (.registered header factory)
      (.registered { header with address := address' } factory'))
    {action action' : ServiceAction τ V W E V} (haction : Run.Simulates (SameState data data') action action')
    (storage : StorageRef) :
    Run.Simulates (SameState data data') (header.getInstance action storage)
      (({ header with address := address' } : ServiceHeader τ V).getInstance action' storage) := by
  intro state state' hsame
  have hcached : state.cached header storage =
      state'.cached ({ header with address := address' } : ServiceHeader τ V) storage := by
    have hinstances := hsame.instances hplace
    have hstorages := hsame.storages hplace storage
    simp only [ServiceDescriptor.header] at hinstances hstorages
    simp only [ServiceCaches.cached, ServiceCaches.instanceOf, hinstances, hstorages]
  rw [ServiceHeader.exec_getInstance, ServiceHeader.exec_getInstance, ← hcached]
  have husable : ({ header with address := address' } : ServiceHeader τ V).Usable = header.Usable := rfl
  rw [husable]
  cases header.Usable with
  | false => exact .some ⟨rfl, hsame.record _ _⟩
  | true =>
    rw [if_pos rfl, if_pos rfl]
    cases state.cached header storage with
    | some service => exact .some ⟨rfl, hsame.record _ _⟩
    | none =>
      have hrel := haction hsame
      rcases hleft : exec action state with _ | ⟨outcome, mid⟩ <;>
        rcases hright : exec action' state' with _ | ⟨outcome', mid'⟩ <;> rw [hleft, hright] at hrel
      · exact .none
      · cases hrel
      · cases hrel
      · obtain ⟨houtcome, hmid⟩ : outcome = outcome' ∧ SameState data data' mid mid' := by
          cases hrel with
          | some hboth => exact hboth
        subst houtcome
        have hstored := (hmid.record (.ran header storage outcome)
          (.ran { header with address := address' } storage outcome)).store hdata hdata' hplace rfl storage outcome
        exact .some ⟨by rcases outcome with (exception | exception) | service <;> rfl, hstored.record _ _⟩

variable {R : ContainerState τ V W E → ContainerState τ V W E → Prop}
  {resolve resolve' : ServiceDescriptor τ V W E → StorageRef → ServiceAction τ V W E V}

/-- Lists whose descriptors yield the same, one by one. -/
def YieldSame (R : ContainerState τ V W E → ContainerState τ V W E → Prop)
    (resolve resolve' : ServiceDescriptor τ V W E → StorageRef → ServiceAction τ V W E V) :
    List (ServiceDescriptor τ V W E) → List (ServiceDescriptor τ V W E) → Prop :=
  List.Forall₂ fun descriptor descriptor' =>
    ∀ storage, Run.Simulates R (resolve descriptor storage) (resolve' descriptor' storage)

theorem YieldSame.getFrom {descriptors descriptors' : List (ServiceDescriptor τ V W E)}
    (hyield : YieldSame R resolve resolve' descriptors descriptors') (type : τ) (storage : StorageRef) :
    Run.Simulates R (getFrom resolve type storage (some descriptors))
      (getFrom resolve' type storage (some descriptors')) := by
  cases hyield with
  | nil => exact .throw _
  | cons hfirst hrest =>
    cases hrest with
    | nil => exact hfirst storage
    | cons hsecond hrest => exact .throw _

theorem YieldSame.addEach {descriptors descriptors' : List (ServiceDescriptor τ V W E)}
    (hyield : YieldSame R resolve resolve' descriptors descriptors') (storage : StorageRef)
    (collection : ServiceCollection V) :
    Run.Simulates R (addEach resolve storage collection descriptors)
      (addEach resolve' storage collection descriptors') := by
  induction hyield generalizing collection with
  | nil => exact .pure _
  | cons hfirst hrest ih =>
    apply Run.Simulates.bind (hfirst storage).attempt
    rintro (exception | service)
    · exact .pure _
    · exact ih _

theorem YieldSame.getManyFrom {descriptors descriptors' : List (ServiceDescriptor τ V W E)}
    (hyield : YieldSame R resolve resolve' descriptors descriptors') (collection : ServiceCollection V)
    (storage : StorageRef) :
    Run.Simulates R (getManyFrom resolve collection storage (some descriptors))
      (getManyFrom resolve' collection storage (some descriptors')) := by
  have hlength := hyield.length_eq
  apply Run.Simulates.bind (hyield.addEach storage collection)
  rintro ⟨outcome, collection'⟩
  simp only [hlength]
  exact .pure _

section Registered

variable (hyield : ∀ type, YieldSame R resolve resolve' (data.registered type) (data'.registered type))
include hyield

theorem simulates_getFrom (type : τ) (storage : StorageRef) :
    Run.Simulates R (getFrom resolve type storage (data.getDescriptors type))
      (getFrom resolve' type storage (data'.getDescriptors type)) := by
  rw [getFrom_eq, getFrom_eq resolve']
  exact (hyield type).getFrom type storage

theorem simulates_getManyFrom (type : τ) (collection : ServiceCollection V) (storage : StorageRef) :
    Run.Simulates R (getManyFrom resolve collection storage (data.getDescriptors type))
      (getManyFrom resolve' collection storage (data'.getDescriptors type)) := by
  rw [getManyFrom_eq, getManyFrom_eq resolve']
  exact (hyield type).getManyFrom collection storage

/-- Dependencies of the same type and kind get the same argument, through whatever list was captured for them. -/
theorem simulates_getDependencyInstance {dependency dependency' : ServiceDependency τ}
    (hsame : (dependency.type, dependency.kind) = (dependency'.type, dependency'.kind))
    (hcaptured : data.descriptorsMap dependency.type = some dependency.descriptors)
    (hcaptured' : data'.descriptorsMap dependency'.type = some dependency'.descriptors) (storage : StorageRef) :
    Run.Simulates R (getDependencyInstance data resolve storage dependency)
      (getDependencyInstance data' resolve' storage dependency') := by
  obtain ⟨type, kind, list⟩ := dependency
  obtain ⟨type', kind', list'⟩ := dependency'
  cases hsame
  have htype := hyield type
  rw [ContainerData.registered_eq hcaptured, ContainerData.registered_eq hcaptured'] at htype
  unfold getDependencyInstance
  cases kind with
  | single => exact (htype.getFrom type storage).bind fun _ => .pure _
  | vector | optional =>
    exact (htype.getManyFrom _ storage).bind fun _ => (Run.Simulates.ofExcept _).bind fun _ => .pure _

theorem simulates_getDependencyInstances {dependencies dependencies' : List (ServiceDependency τ)}
    (hsame : dependencies.map (fun dependency => (dependency.type, dependency.kind)) =
      dependencies'.map fun dependency => (dependency.type, dependency.kind))
    (hcaptured : ∀ dependency ∈ dependencies, data.descriptorsMap dependency.type = some dependency.descriptors)
    (hcaptured' : ∀ dependency ∈ dependencies', data'.descriptorsMap dependency.type = some dependency.descriptors)
    (storage : StorageRef) :
    Run.Simulates R (getDependencyInstances data resolve storage dependencies)
      (getDependencyInstances data' resolve' storage dependencies') := by
  induction dependencies generalizing dependencies' with
  | nil =>
    obtain rfl := List.map_eq_nil_iff.mp hsame.symm
    exact .pure _
  | cons dependency rest ih =>
    cases dependencies' with
    | nil => cases hsame
    | cons dependency' rest' =>
      obtain ⟨hfirst, hrest⟩ := List.cons.inj hsame
      apply Run.Simulates.bind (simulates_getDependencyInstance hyield hfirst (hcaptured _ (.head _))
        (hcaptured' _ (.head _)) storage)
      intro argument
      exact (ih hrest (fun other hmem => hcaptured other (.tail _ hmem))
        fun other hmem => hcaptured' other (.tail _ hmem)).bind fun _ => .pure _

end Registered

/-- Code outside of the container cannot tell the two containers apart. -/
theorem simulates_programRun
    (hyield : ∀ type, YieldSame (SameState data data') resolve resolve' (data.registered type) (data'.registered type))
    (program : ServiceProgram τ V W E) :
    Run.Simulates (SameState data data') (program.run data resolve) (program.run data' resolve') := by
  induction program with
  | returns service => exact .pure service
  | throws exception => exact .throw exception
  | effect update next ih =>
    apply Run.Simulates.bind (.modify fun hsame => hsame.changeWorld update)
    intro _
    apply Run.Simulates.get_bind
    intro state state' hsame
    rw [hsame.world]
    exact ih state'.world hsame
  | get type storage next ih => exact (simulates_getFrom hyield type storage).attempt.bind ih
  | getMany type collection storage next ih =>
    exact (simulates_getManyFrom hyield type collection storage).bind fun result => ih result.1 result.2
  | clear storage next ih =>
    exact Run.Simulates.bind (.modify fun hsame => hsame.clearStorage storage) fun _ => ih

theorem simulates_factoryInvoke
    (hyield : ∀ type, YieldSame (SameState data data') resolve resolve' (data.registered type) (data'.registered type))
    {header header' : ServiceHeader τ V} {factory factory' : ServiceFactory τ V W E} (halike : factory.Alike factory')
    (hcaptured : ∀ dependency ∈ (ServiceDescriptor.registered header factory).dependencies,
      data.descriptorsMap dependency.type = some dependency.descriptors)
    (hcaptured' : ∀ dependency ∈ (ServiceDescriptor.registered header' factory').dependencies,
      data'.descriptorsMap dependency.type = some dependency.descriptors)
    (type : τ) (storage : StorageRef) :
    Run.Simulates (SameState data data') (factory.invoke data resolve type storage)
      (factory'.invoke data' resolve' type storage) := by
  cases halike with
  | injection construct hsame =>
    apply Run.Simulates.bind (simulates_getDependencyInstances hyield hsame hcaptured hcaptured' storage)
    exact fun arguments => simulates_programRun hyield (construct arguments)
  | function func => exact simulates_programRun hyield (func storage)
  | exception => exact .throw _

/-- Every registration yields the same in both containers. -/
theorem SameServices.yieldSame (hdata : data.WellFormed) (hdata' : data'.WellFormed) (hsame : SameServices data data')
    (fuel : Nat) (type : τ) :
    YieldSame (SameState data data') (data.getInstance fuel) (data'.getInstance fuel) (data.registered type)
      (data'.registered type) := by
  induction fuel generalizing type with
  | zero =>
    exact (hsame type).imp fun _ _ _ storage => .diverge
  | succ fuel ih =>
    obtain ⟨hlength, halike⟩ := List.forall₂_iff_get.mp (hsame type)
    refine List.forall₂_iff_get.mpr ⟨hlength, fun i hi hi' storage => ?_⟩
    have hget : (data.registered type)[i]? = some ((data.registered type).get ⟨i, hi⟩) := List.getElem?_eq_getElem hi
    have hget' : (data'.registered type)[i]? = some ((data'.registered type).get ⟨i, hi'⟩) :=
      List.getElem?_eq_getElem hi'
    obtain ⟨header, address', factory, factory', heq, heq', hfactory⟩ := (halike i hi hi').cases
    rw [heq] at hget ⊢
    rw [heq'] at hget' ⊢
    exact SameState.simulates_getInstance hdata hdata' ⟨type, i, hget, hget'⟩
      (simulates_factoryInvoke ih hfactory (fun _ => hdata.captured_registered (List.mem_of_getElem? hget))
        (fun _ => hdata'.captured_registered (List.mem_of_getElem? hget')) header.type storage) storage

theorem simulates_calls {fuel : Nat}
    (hyield : ∀ type, YieldSame (SameState data data') (data.getInstance fuel) (data'.getInstance fuel)
      (data.registered type) (data'.registered type)) (calls : List (ServiceCall τ V)) :
    Run.Simulates (SameState data data') (data.calls fuel calls) (data'.calls fuel calls) := by
  have hcall : ∀ call, Run.Simulates (SameState data data') (data.call fuel call) (data'.call fuel call) := by
    intro call
    cases call with
    | get type storage => exact (simulates_getFrom hyield type storage).attempt.bind fun _ => .pure _
    | getMany type collection storage => exact (simulates_getManyFrom hyield type collection storage).bind fun _ => .pure _
    | clear storage => exact Run.Simulates.bind (.modify fun hsame => hsame.clearStorage storage) fun _ => .pure _
  induction calls with
  | nil => exact .pure _
  | cons call rest ih => exact (hcall call).bind fun _ => ih.bind fun _ => .pure _

end Simulation

/-- Two sequences of registrations that are permutations of each other and keep the order within each type. -/
structure Reordered [DecidableEq τ] (first second : List (ServiceRegistration τ V W E)) : Prop where
  perm : first.Perm second
  filter_eq : ∀ type, first.filter (fun registration => registration.type = type) =
    second.filter fun registration => registration.type = type

theorem Container.registered_empty (type : τ) : (Container.empty (τ := τ) (V := V) (W := W) (E := E)).registered type = [] :=
  rfl

/-- Containers into which the same was added, up to the order of types, have the same services. -/
theorem Reordered.sameServices [DecidableEq τ] {first second : List (ServiceRegistration τ V W E)}
    (hreordered : Reordered first second) :
    SameServices (Container.empty.addAll first).toContainerData (Container.empty.addAll second).toContainerData := by
  intro type
  obtain ⟨added, hadded, hrepresents⟩ := Container.empty.registered_addAll first type
  obtain ⟨added', hadded', hrepresents'⟩ := Container.empty.registered_addAll second type
  rw [Container.registered_empty, List.nil_append] at hadded hadded'
  rw [hadded, hadded']
  rw [← hreordered.filter_eq type] at hrepresents'
  obtain ⟨hlength, hget⟩ := List.forall₂_iff_get.mp hrepresents
  obtain ⟨hlength', hget'⟩ := List.forall₂_iff_get.mp hrepresents'
  refine List.forall₂_iff_get.mpr ⟨hlength.symm.trans hlength', fun i hi hi' => ?_⟩
  exact ⟨_, hget i (hlength ▸ hi) hi, hget' i (hlength' ▸ hi') hi'⟩

theorem sameState_fresh (data data' : ContainerData τ V W E) (world : W) :
    SameState data data' (ContainerState.fresh world) (ContainerState.fresh world) :=
  ⟨rfl, fun _ => rfl, fun _ _ => rfl⟩

/-- The order in which services of different types are registered does not matter: every sequence of calls gives the
    same results in both containers, or comes back in neither, and leaves the same world. -/
theorem Container.addAll_reordered [DecidableEq τ] {first second : List (ServiceRegistration τ V W E)}
    (hreordered : Reordered first second) (fuel : Nat) (calls : List (ServiceCall τ V)) (world : W) :
    (exec ((Container.empty.addAll first).calls fuel calls) (ContainerState.fresh world)).map
      (fun result => (result.1, result.2.world)) =
    (exec ((Container.empty.addAll second).calls fuel calls) (ContainerState.fresh world)).map
      fun result => (result.1, result.2.world) := by
  have hyield := hreordered.sameServices.yieldSame (Container.empty.addAll first).wellFormed
    (Container.empty.addAll second).wellFormed fuel
  have hrel := simulates_calls hyield calls (sameState_fresh _ _ world)
  generalize exec ((Container.empty.addAll first).calls fuel calls) (ContainerState.fresh world) = left at hrel ⊢
  generalize exec ((Container.empty.addAll second).calls fuel calls) (ContainerState.fresh world) = right at hrel ⊢
  cases hrel with
  | none => rfl
  | some hsame =>
    obtain ⟨houtcome, hstate⟩ := hsame
    exact congrArg some (Prod.ext houtcome hstate.world)

/-- A persistent service that counts the calls of its factory in the world. -/
def countingService : ServiceRegistration Nat Nat Nat Unit :=
  ⟨0, true, .function (fun _ => .effect (· + 1) .returns) .Persistent⟩

/-- A service that is constructed with the counting one. -/
def injectingService : ServiceRegistration Nat Nat Nat Unit :=
  ⟨1, true, .implementation [(0, .single)] (fun arguments => .returns arguments.length) .Transient⟩

theorem reordered_injecting : Reordered [injectingService, countingService] [countingService, injectingService] where
  perm := .swap ..
  filter_eq type := by
    match type with
    | 0 => rfl
    | 1 => rfl
    | type + 2 => rfl

theorem Container.addAll_reordered_injecting :
    (exec ((Container.empty.addAll [injectingService, countingService]).calls 3 [.get 1 .builtin, .get 0 .builtin])
      (ContainerState.fresh 0)).map (fun result => (result.1, result.2.world)) =
    (exec ((Container.empty.addAll [countingService, injectingService]).calls 3 [.get 1 .builtin, .get 0 .builtin])
      (ContainerState.fresh 0)).map fun result => (result.1, result.2.world) :=
  Container.addAll_reordered reordered_injecting 3 _ 0

end cpv
