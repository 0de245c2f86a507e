import Cpv.Core.Run
import Mathlib.Logic.Function.Basic

namespace cpv

/-- Defines how to manage service lifetime. `other` is a number cast to the enumeration that names no member of it. -/
inductive ServiceLifetime
  | Transient
  | Persistent
  | StoragePersistent
  | other (value : Nat)
deriving DecidableEq, Repr

/-- Which storage a call is given: the one built into the container, or one of its caller. -/
inductive StorageRef
  | builtin
  | other (address : Nat)
deriving DecidableEq, Repr

/-- The storage used to store instance of services with lifetime StoragePersistent, the key is the address of the
    descriptor. -/
structure ServiceStorage (V : Type) where
  instances : Nat → Option V

namespace ServiceStorage

variable {V : Type}

def get (storage : ServiceStorage V) (key : Nat) : Option V := storage.instances key

def set (storage : ServiceStorage V) (key : Nat) (value : V) : ServiceStorage V :=
  ⟨Function.update storage.instances key (some value)⟩

def clear (_storage : ServiceStorage V) : ServiceStorage V := ⟨fun _ => none⟩

@[simp]
theorem get_clear (storage : ServiceStorage V) (key : Nat) : storage.clear.get key = none := rfl

theorem get_set (storage : ServiceStorage V) (key : Nat) (value : V) (other : Nat) :
    (storage.set key value).get other = if other = key then some value else storage.get other :=
  Function.update_apply ..

@[simp]
theorem get_set_self (storage : ServiceStorage V) (key : Nat) (value : V) :
    (storage.set key value).get key = some value := Function.update_self ..

end ServiceStorage

/-- What code outside the container throws, a call of an empty function object among it. -/
inductive ForeignException (E : Type)
  | user (exception : E)
  | badFunctionCall
deriving DecidableEq, Repr

/-- `ContainerException`, by the place that throws it; `raised` is one that a factory throws itself. -/
inductive ContainerException (τ E : Type)
  | notRegistered (type : τ)
  | registeredMultipleTimes (type : τ)
  | persistentNotCopyConstructible (type : τ)
  | storagePersistentNotCopyConstructible (type : τ)
  | unsupportedLifetime (type : τ) (value : Nat)
  | registeredWithInstance (type : τ)
  | wrapped (type : τ) (exception : ForeignException E)
  | raised (exception : E)
deriving DecidableEq, Repr

/-- What a call into the container may throw while it resolves. -/
inductive ServiceException (τ E : Type)
  | container (exception : ContainerException τ E)
  | foreign (exception : ForeignException E)
deriving DecidableEq, Repr

/-- The parts of the message, which the exception joins with blanks after the place in the code. -/
def ContainerException.message {τ E : Type} (name : τ → String) (describe : ForeignException E → String) :
    ContainerException τ E → List String
  | notRegistered type => ["get instance of type [", name type, "] failed: not registered"]
  | registeredMultipleTimes type => ["get instance of type [", name type, "] failed: registered multiple times"]
  | persistentNotCopyConstructible type =>
    ["get instance of service type [", name type, "] error: lifetime is persistent but not copy constructible"]
  | storagePersistentNotCopyConstructible type =>
    ["get instance of service type [", name type, "] error: lifetime is storage persistent but not copy constructible"]
  | unsupportedLifetime type value =>
    ["get instance of service type [", name type, "] error: unsupported lifetime type (", toString value, ")"]
  | registeredWithInstance type =>
    ["get instance of service type [", name type, "] error:",
      "it's registered with instance but still try to invoke factory"]
  | wrapped type exception => ["get instance of service type [", name type, "] error:", describe exception]
  | raised exception => [describe (.user exception)]

/-- The type an exception of the container itself is about. -/
def ContainerException.type? {τ E : Type} : ContainerException τ E → Option τ
  | notRegistered type | registeredMultipleTimes type | persistentNotCopyConstructible type
  | storagePersistentNotCopyConstructible type | unsupportedLifetime type _ | registeredWithInstance type
  | wrapped type _ => some type
  | raised _ => none

/-- Every message of the container names the type that was asked for. -/
theorem ContainerException.name_mem_message {τ E : Type} (name : τ → String) (describe : ForeignException E → String)
    {exception : ContainerException τ E} {type : τ} (htype : exception.type? = some type) :
    name type ∈ exception.message name describe := by
  cases exception <;> simp_all [type?, message]

/-- A collection that `getMany` adds to. An optional keeps the last service added. -/
inductive ServiceCollection (V : Type)
  | vector (items : List V)
  | optional (item : Option V)
deriving DecidableEq, Repr

def ServiceCollection.add {V : Type} : ServiceCollection V → V → ServiceCollection V
  | vector items, element => vector (items ++ [element])
  | optional _, element => optional (some element)

/-- The code of a factory or of a patch function: what it does to the world outside of the container, and how it calls
    back into the container. It sees what a call returned or threw. -/
inductive ServiceProgram (τ V W E : Type)
  | returns (service : V)
  | throws (exception : ServiceException τ E)
  | effect (update : W → W) (next : W → ServiceProgram τ V W E)
  | get (type : τ) (storage : StorageRef) (next : Except (ServiceException τ E) V → ServiceProgram τ V W E)
  | getMany (type : τ) (collection : ServiceCollection V) (storage : StorageRef)
      (next : Except (ServiceException τ E) Nat → ServiceCollection V → ServiceProgram τ V W E)
  | clear (storage : StorageRef) (next : ServiceProgram τ V W E)

/-- How a constructor takes a dependency: as a single service, or as a collection of all of them. -/
inductive DependencyKind
  | single
  | vector
  | optional
deriving DecidableEq, Repr

/-- A dependency of a registered implementation, with the list of descriptors captured for it. -/
structure ServiceDependency (τ : Type) where
  type : τ
  kind : DependencyKind
  descriptors : Nat
deriving DecidableEq, Repr

/-- A constructor argument. -/
inductive ServiceArgument (V : Type)
  | single (service : V)
  | collection (services : ServiceCollection V)
deriving DecidableEq, Repr

/-- `ServiceFactoryBase`: a dependency injection factory, whose dependencies stand in the order the compiler evaluates
    the constructor arguments, a function or a factory object, or the factory of a service registered with instance. -/
inductive ServiceFactory (τ V W E : Type)
  | injection (dependencies : List (ServiceDependency τ))
      (construct : List (ServiceArgument V) → ServiceProgram τ V W E)
  | function (func : StorageRef → ServiceProgram τ V W E)
  | exception

/-- What a descriptor holds besides its factory. `address` is the pointer that tells descriptors apart,
    `copyConstructible` a fact of the type, and `instance_` what it was created with. -/
structure ServiceHeader (τ V : Type) where
  address : Nat
  type : τ
  copyConstructible : Bool
  lifetime : ServiceLifetime
  instance_ : Option V
deriving DecidableEq, Repr

/-- `ServiceDescriptor`. The factory of a patched one owns the original descriptor and the function to wrap its
    instances with, which is `none` when the function object has been moved from. -/
inductive ServiceDescriptor (τ V W E : Type)
  | registered (header : ServiceHeader τ V) (factory : ServiceFactory τ V W E)
  | patched (header : ServiceHeader τ V) (original : ServiceDescriptor τ V W E)
      (func : Option (StorageRef → V → ServiceProgram τ V W E))

def ServiceDescriptor.header {τ V W E : Type} : ServiceDescriptor τ V W E → ServiceHeader τ V
  | registered header _ => header
  | patched header _ _ => header

def ServiceDescriptor.getLifetime {τ V W E : Type} (descriptor : ServiceDescriptor τ V W E) : ServiceLifetime :=
  descriptor.header.lifetime

/-- What can be observed of the descriptors: a factory call that came back, an instance or exception handed out, and a
    storage cleared. -/
inductive ServiceEvent (τ V E : Type)
  | ran (header : ServiceHeader τ V) (storage : StorageRef) (outcome : Except (ServiceException τ E) V)
  | got (header : ServiceHeader τ V) (storage : StorageRef) (outcome : Except (ServiceException τ E) V)
  | cleared (storage : StorageRef)

/-- The instances kept for later calls: those that persistent descriptors stored, and the storages. -/
structure ServiceCaches (V : Type) where
  instances : Nat → Option V
  storages : StorageRef → ServiceStorage V

namespace ServiceCaches

variable {τ V : Type}

/-- The member `instance_` of a descriptor. -/
def instanceOf (caches : ServiceCaches V) (header : ServiceHeader τ V) : Option V :=
  header.instance_.or (caches.instances header.address)

def setInstance (caches : ServiceCaches V) (address : Nat) (value : V) : ServiceCaches V :=
  { caches with instances := Function.update caches.instances address (some value) }

def setStored (caches : ServiceCaches V) (storage : StorageRef) (key : Nat) (value : V) : ServiceCaches V :=
  { caches with storages := Function.update caches.storages storage ((caches.storages storage).set key value) }

def clearStorage (caches : ServiceCaches V) (storage : StorageRef) : ServiceCaches V :=
  { caches with storages := Function.update caches.storages storage (caches.storages storage).clear }

end ServiceCaches

/-- Everything that changes while services are resolved: the instances that are kept, the world outside, and the log of
    what happened, newest first. -/
structure ContainerState (τ V W E : Type) extends ServiceCaches V where
  world : W
  log : List (ServiceEvent τ V E)

namespace ContainerState

variable {τ V W E : Type}

/-- The state in which nothing has been resolved. -/
def fresh (world : W) : ContainerState τ V W E := ⟨⟨fun _ => none, fun _ => ⟨fun _ => none⟩⟩, world, []⟩

def changeCaches (change : ServiceCaches V → ServiceCaches V) (state : ContainerState τ V W E) :
    ContainerState τ V W E :=
  { state with toServiceCaches := change state.toServiceCaches }

def changeWorld (update : W → W) (state : ContainerState τ V W E) : ContainerState τ V W E :=
  { state with world := update state.world }

def record (event : ServiceEvent τ V E) (state : ContainerState τ V W E) : ContainerState τ V W E :=
  { state with log := event :: state.log }

def clearStorage (storage : StorageRef) (state : ContainerState τ V W E) : ContainerState τ V W E :=
  (state.changeCaches fun caches => caches.clearStorage storage).record (.cleared storage)

end ContainerState

/-- Code that runs on the state of the container and may throw. -/
abbrev ServiceAction (τ V W E α : Type) := Run (ServiceException τ E) (ContainerState τ V W E) α

namespace ServiceHeader

variable {τ V W E : Type}

/-- A call of the factory of the descriptor. -/
def invoke (header : ServiceHeader τ V) (factory : ServiceAction τ V W E V) (storage : StorageRef) :
    ServiceAction τ V W E V := do
  let outcome ← Run.attempt factory
  modify (ContainerState.record (.ran header storage outcome))
  Run.ofExcept outcome

/-- The body of `getInstance` between `try` and `catch`. -/
def produce (header : ServiceHeader τ V) (factory : ServiceAction τ V W E V) (storage : StorageRef) :
    ServiceAction τ V W E V :=
  match header.lifetime with
  | .Persistent =>
    if header.copyConstructible then do
      let state ← get
      match state.instanceOf header with
      | some service => pure service
      | none =>
        let service ← header.invoke factory storage
        modify (ContainerState.changeCaches fun caches => caches.setInstance header.address service)
        pure service
    else
      throw (.container (.persistentNotCopyConstructible header.type))
  | .Transient => header.invoke factory storage
  | .StoragePersistent =>
    if header.copyConstructible then do
      let state ← get
      match (state.storages storage).get header.address with
      | some service => pure service
      | none =>
        let service ← header.invoke factory storage
        modify (ContainerState.changeCaches fun caches => caches.setStored storage header.address service)
        pure service
    else
      throw (.container (.storagePersistentNotCopyConstructible header.type))
  | .other value => throw (.container (.unsupportedLifetime header.type value))

/-- What the caller of `getInstance` sees: exceptions of the container as they are, all others wrapped. -/
def surfaced (header : ServiceHeader τ V) : Except (ServiceException τ E) V → Except (ServiceException τ E) V
  | .ok service => .ok service
  | .error (.container exception) => .error (.container exception)
  | .error (.foreign exception) => .error (.container (.wrapped header.type exception))

/-- Get an instance of this service -/
def getInstance (header : ServiceHeader τ V) (factory : ServiceAction τ V W E V) (storage : StorageRef) :
    ServiceAction τ V W E V := do
  let outcome ← Run.attempt (header.produce factory storage)
  modify (ContainerState.record (.got header storage (header.surfaced outcome)))
  Run.ofExcept (header.surfaced outcome)

end ServiceHeader

/-- `ContainerData`. The lists of descriptors are shared by pointer with the dependency injection factories;
    `nextList` and `nextDescriptor` are the addresses that the next allocations return. -/
structure ContainerData (τ V W E : Type) where
  descriptorsMap : τ → Option Nat
  lists : Nat → List (ServiceDescriptor τ V W E)
  nextList : Nat
  nextDescriptor : Nat

/-- What a service is registered with: an implementation type, which brings the dependencies and the constructor, an
    instance, or a function or factory object. -/
inductive ServiceSource (τ V W E : Type)
  | implementation (dependencies : List (τ × DependencyKind))
      (construct : List (ServiceArgument V) → ServiceProgram τ V W E) (lifetime : ServiceLifetime)
  | value (service : V)
  | function (func : StorageRef → ServiceProgram τ V W E) (lifetime : ServiceLifetime)

/-- The arguments of `Container::add`. -/
structure ServiceRegistration (τ V W E : Type) where
  type : τ
  copyConstructible : Bool
  source : ServiceSource τ V W E

namespace ContainerData

variable {τ V W E : Type}

/-- The container with nothing registered. -/
def empty : ContainerData τ V W E := ⟨fun _ => none, fun _ => [], 0, 0⟩

/-- Get all descriptors associated to given service type, return null pointer if not registered -/
def getDescriptors (data : ContainerData τ V W E) (type : τ) : Option (List (ServiceDescriptor τ V W E)) :=
  (data.descriptorsMap type).map data.lists

section Register

variable [DecidableEq τ]

/-- Get all descriptors associated to given service type, return empty list if not registered -/
def getOrCreateEmptyDescriptors (data : ContainerData τ V W E) (type : τ) : Nat × ContainerData τ V W E :=
  match data.descriptorsMap type with
  | some list => (list, data)
  | none =>
    (data.nextList,
      { data with
        descriptorsMap := Function.update data.descriptorsMap type (some data.nextList)
        lists := Function.update data.lists data.nextList []
        nextList := data.nextList + 1 })

/-- Associate a descriptor to given service type -/
def addDescriptor (data : ContainerData τ V W E) (type : τ) (descriptor : ServiceDescriptor τ V W E) :
    ContainerData τ V W E :=
  let (list, data) := data.getOrCreateEmptyDescriptors type
  { data with lists := Function.update data.lists list (data.lists list ++ [descriptor]) }

/-- Get array contains service descriptors for each dependency type -/
def getDependencyDescriptors (data : ContainerData τ V W E) :
    List (τ × DependencyKind) → List (ServiceDependency τ) × ContainerData τ V W E
  | [] => ([], data)
  | (type, kind) :: rest =>
    let (list, data) := data.getOrCreateEmptyDescriptors type
    let (dependencies, data) := data.getDependencyDescriptors rest
    (⟨type, kind, list⟩ :: dependencies, data)

/-- `ServiceDescriptor::create`, at the next free address. -/
def createDescriptor (data : ContainerData τ V W E) (type : τ) (copyConstructible : Bool) (lifetime : ServiceLifetime)
    (instance_ : Option V) (factory : ServiceFactory τ V W E) : ServiceDescriptor τ V W E × ContainerData τ V W E :=
  (.registered ⟨data.nextDescriptor, type, copyConstructible, lifetime, instance_⟩ factory,
    { data with nextDescriptor := data.nextDescriptor + 1 })

/-- The overloads of `Container::add`. -/
def add (data : ContainerData τ V W E) (registration : ServiceRegistration τ V W E) : ContainerData τ V W E :=
  let type := registration.type
  let copyConstructible := registration.copyConstructible
  match registration.source with
  | .implementation dependencyTypes construct lifetime =>
    let (dependencies, data) := data.getDependencyDescriptors dependencyTypes
    let (descriptor, data) :=
      data.createDescriptor type copyConstructible lifetime none (.injection dependencies construct)
    data.addDescriptor type descriptor
  | .value service =>
    let (descriptor, data) := data.createDescriptor type copyConstructible .Persistent (some service) .exception
    data.addDescriptor type descriptor
  | .function func lifetime =>
    let (descriptor, data) := data.createDescriptor type copyConstructible lifetime none (.function func)
    data.addDescriptor type descriptor

end Register

/-- The loop of `ServicePatcher::patch`. The function object is moved into the wrapper of the first descriptor, so the
    later iterations move from an object that is empty already. -/
def patchDescriptors (next : Nat) (func : Option (StorageRef → V → ServiceProgram τ V W E)) :
    List (ServiceDescriptor τ V W E) → List (ServiceDescriptor τ V W E)
  | [] => []
  | original :: rest =>
    let header : ServiceHeader τ V :=
      ⟨next, original.header.type, original.header.copyConstructible, original.getLifetime, none⟩
    .patched header original func :: patchDescriptors (next + 1) none rest

/-- Patch registered services by given a wrapper function, the lifetime of wrapper instance will be same as
    original. -/
def patch (data : ContainerData τ V W E) (type : τ) (func : StorageRef → V → ServiceProgram τ V W E) :
    Nat × ContainerData τ V W E :=
  match data.descriptorsMap type with
  | none => (0, data)
  | some list =>
    let descriptors := data.lists list
    (descriptors.length,
      { data with
        -- replaced in place: the list itself stays the one that factories captured
        lists := Function.update data.lists list (patchDescriptors data.nextDescriptor (some func) descriptors)
        nextDescriptor := data.nextDescriptor + descriptors.length })

end ContainerData

section Resolve

variable {τ V W E : Type} (data : ContainerData τ V W E)
  (resolve : ServiceDescriptor τ V W E → StorageRef → ServiceAction τ V W E V)

/-- Get service instance, throws exception if not registered or registered multiple times -/
def getFrom (type : τ) (storage : StorageRef) (descriptors : Option (List (ServiceDescriptor τ V W E))) :
    ServiceAction τ V W E V :=
  match descriptors with
  | none | some [] => throw (.container (.notRegistered type))
  | some [descriptor] => resolve descriptor storage
  | some (_ :: _ :: _) => throw (.container (.registeredMultipleTimes type))

/-- The loop of `getMany`. The collection is the caller's, so it keeps what was added before an exception. -/
def addEach (storage : StorageRef) :
    ServiceCollection V → List (ServiceDescriptor τ V W E) →
      ServiceAction τ V W E (Except (ServiceException τ E) Unit × ServiceCollection V)
  | collection, [] => pure (.ok (), collection)
  | collection, descriptor :: rest => do
    match ← Run.attempt (resolve descriptor storage) with
    | .ok service => addEach storage (collection.add service) rest
    | .error exception => pure (.error exception, collection)

/-- Get service instances and adding them to given collection, notice it will not clear the collection first -/
def getManyFrom (collection : ServiceCollection V) (storage : StorageRef)
    (descriptors : Option (List (ServiceDescriptor τ V W E))) :
    ServiceAction τ V W E (Except (ServiceException τ E) Nat × ServiceCollection V) :=
  match descriptors with
  | none => pure (.ok 0, collection)
  | some descriptors => do
    let (outcome, collection) ← addEach resolve storage collection descriptors
    pure (outcome.map fun _ => descriptors.length, collection)

/-- Get instance of single dependency type -/
def getDependencyInstance (storage : StorageRef) (dependency : ServiceDependency τ) :
    ServiceAction τ V W E (ServiceArgument V) :=
  let descriptors := some (data.lists dependency.descriptors)
  let getCollection (collection : ServiceCollection V) : ServiceAction τ V W E (ServiceArgument V) := do
    let (outcome, collection) ← getManyFrom resolve collection storage descriptors
    let _ ← Run.ofExcept outcome
    pure (.collection collection)
  match dependency.kind with
  | .single => do
    let service ← getFrom resolve dependency.type storage descriptors
    pure (.single service)
  | .vector => getCollection (.vector [])
  | .optional => getCollection (.optional none)

/-- The arguments of the constructor, one after the other. -/
def getDependencyInstances (storage : StorageRef) :
    List (ServiceDependency τ) → ServiceAction τ V W E (List (ServiceArgument V))
  | [] => pure []
  | dependency :: rest => do
    let argument ← getDependencyInstance data resolve storage dependency
    let arguments ← getDependencyInstances storage rest
    pure (argument :: arguments)

/-- Code of a factory or a patch function runs. -/
def ServiceProgram.run : ServiceProgram τ V W E → ServiceAction τ V W E V
  | .returns service => pure service
  | .throws exception => throw exception
  | .effect update next => do
    modify (ContainerState.changeWorld update)
    let state ← MonadState.get
    (next state.world).run
  | .get type storage next => do
    let outcome ← Run.attempt (getFrom resolve type storage (data.getDescriptors type))
    (next outcome).run
  | .getMany type collection storage next => do
    let (outcome, collection) ← getManyFrom resolve collection storage (data.getDescriptors type)
    (next outcome collection).run
  | .clear storage next => do
    modify (ContainerState.clearStorage storage)
    next.run

/-- `operator()` of a factory of services of a type. -/
def ServiceFactory.invoke (type : τ) (storage : StorageRef) : ServiceFactory τ V W E → ServiceAction τ V W E V
  | .injection dependencies construct => do
    let arguments ← getDependencyInstances data resolve storage dependencies
    (construct arguments).run data resolve
  | .function func => (func storage).run data resolve
  | .exception => throw (.container (.registeredWithInstance type))

/-- `operator()` of the factory that `getPatchedServiceFactory` makes: the argument of the function is evaluated before
    the function object is found empty. -/
def callPatched (original : ServiceAction τ V W E V) (func : Option (StorageRef → V → ServiceProgram τ V W E))
    (storage : StorageRef) : ServiceAction τ V W E V := do
  let service ← original
  match func with
  | some func => (func storage service).run data resolve
  | none => throw (.foreign .badFunctionCall)

/-- Get an instance of this service, where `resolve` gets those that its factory asks the container for. -/
def ServiceDescriptor.getInstance : ServiceDescriptor τ V W E → StorageRef → ServiceAction τ V W E V
  | .registered header factory, storage => header.getInstance (factory.invoke data resolve header.type storage) storage
  | .patched header original func, storage =>
    header.getInstance (callPatched data resolve (original.getInstance storage) func storage) storage

end Resolve

namespace ContainerData

variable {τ V W E : Type}

/-- `ServiceDescriptor::getInstance` on a container. Dependencies may go in a circle, in which case the code does not
    come back; `fuel` bounds how deep a resolution nests. -/
def getInstance (data : ContainerData τ V W E) :
    Nat → ServiceDescriptor τ V W E → StorageRef → ServiceAction τ V W E V
  | 0, _, _ => Run.diverge
  | fuel + 1, descriptor, storage => descriptor.getInstance data (data.getInstance fuel) storage

end ContainerData

/-- A call that user code makes on the container or on a storage. -/
inductive ServiceCall (τ V : Type)
  | get (type : τ) (storage : StorageRef)
  | getMany (type : τ) (collection : ServiceCollection V) (storage : StorageRef)
  | clear (storage : StorageRef)

/-- What a call gives back. After `getMany` the caller also has its collection. -/
inductive ServiceResult (τ V E : Type)
  | got (outcome : Except (ServiceException τ E) V)
  | gotMany (outcome : Except (ServiceException τ E) Nat) (collection : ServiceCollection V)
  | cleared

namespace ContainerData

variable {τ V W E : Type}

/-- One call; what it throws is part of its result. -/
def call (data : ContainerData τ V W E) (fuel : Nat) :
    ServiceCall τ V → ServiceAction τ V W E (ServiceResult τ V E)
  | .get type storage => do
    let outcome ← Run.attempt (getFrom (data.getInstance fuel) type storage (data.getDescriptors type))
    pure (.got outcome)
  | .getMany type collection storage => do
    let (outcome, collection) ←
      getManyFrom (data.getInstance fuel) collection storage (data.getDescriptors type)
    pure (.gotMany outcome collection)
  | .clear storage => do
    modify (ContainerState.clearStorage storage)
    pure .cleared

/-- A sequence of calls. -/
def calls (data : ContainerData τ V W E) (fuel : Nat) :
    List (ServiceCall τ V) → ServiceAction τ V W E (List (ServiceResult τ V E))
  | [] => pure []
  | call :: rest => do
    let result ← data.call fuel call
    let results ← data.calls fuel rest
    pure (result :: results)

end ContainerData

end cpv
