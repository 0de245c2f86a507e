import Cpv.Container.WellFormed
import Cpv.Core.Acyclic

namespace cpv

variable {τ V W E : Type}

/-- The types that a program may ask the container for, whatever it sees on the way. -/
def ServiceProgram.Uses : ServiceProgram τ V W E → τ → Prop
  | .returns _, _ => False
  | .throws _, _ => False
  | .effect _ next, type => ∃ world, (next world).Uses type
  | .get used _ next, type => type = used ∨ ∃ outcome, (next outcome).Uses type
  | .getMany used _ _ next, type => type = used ∨ ∃ outcome collection, (next outcome collection).Uses type
  | .clear _ next, type => next.Uses type

/-- The lists that a program may ask the container for. -/
def ServiceProgram.Resolves (data : ContainerData τ V W E) (program : ServiceProgram τ V W E) (list : Nat) : Prop :=
  ∃ type, program.Uses type ∧ data.descriptorsMap type = some list

/-- The lists whose services a factory may ask for: those it captured, and those that its code names by type. -/
def ServiceFactory.Resolves (data : ContainerData τ V W E) : ServiceFactory τ V W E → Nat → Prop
  | .injection dependencies construct, list =>
    (∃ dependency ∈ dependencies, dependency.descriptors = list) ∨
      ∃ arguments, (construct arguments).Resolves data list
  | .function func, list => ∃ storage, (func storage).Resolves data list
  | .exception, _ => False

/-- The lists whose services may be needed for an instance of a descriptor. -/
def ServiceDescriptor.Resolves (data : ContainerData τ V W E) : ServiceDescriptor τ V W E → Nat → Prop
  | .registered _ factory, list => factory.Resolves data list
  | .patched _ original func, list =>
    original.Resolves data list ∨ ∃ code, func = some code ∧ ∃ storage service, (code storage service).Resolves data list

namespace ContainerData

/-- The dependencies between the services of a container, by the lists that hold their descriptors. -/
def DependsOn (data : ContainerData τ V W E) (list other : Nat) : Prop :=
  ∃ descriptor ∈ data.lists list, descriptor.Resolves data other

/-- No service depends on itself, directly or through others. -/
def Acyclic (data : ContainerData τ V W E) : Prop := ∀ list, ¬ Relation.TransGen data.DependsOn list list

end ContainerData

theorem ServiceDescriptor.resolves_of_dependency {data : ContainerData τ V W E}
    {descriptor : ServiceDescriptor τ V W E} {list : Nat} (hresolves : descriptor.Resolves data list) :
    (∃ dependency ∈ descriptor.dependencies, dependency.descriptors = list) ∨
      ∃ type, data.descriptorsMap type = some list := by
  induction descriptor with
  | registered header factory =>
    cases factory with
    | injection dependencies construct =>
      rcases hresolves with hcaptured | ⟨arguments, type, -, hmap⟩
      · exact .inl hcaptured
      · exact .inr ⟨type, hmap⟩
    | function func =>
      obtain ⟨storage, type, -, hmap⟩ := hresolves
      exact .inr ⟨type, hmap⟩
    | exception => exact hresolves.elim
  | patched header original func ih =>
    rcases hresolves with hinner | ⟨code, -, storage, service, type, -, hmap⟩
    · exact ih hinner
    · exact .inr ⟨type, hmap⟩

/-- Dependencies are lists of the container. -/
theorem ContainerData.WellFormed.dependsOn_lt {data : ContainerData τ V W E} (hdata : data.WellFormed)
    {list other : Nat} (hdepends : data.DependsOn list other) : other < data.nextList := by
  obtain ⟨descriptor, hmem, hresolves⟩ := hdepends
  rcases descriptor.resolves_of_dependency hresolves with ⟨dependency, hin, rfl⟩ | ⟨type, hmap⟩
  · exact hdata.list_lt (hdata.captured hmem hin)
  · exact hdata.list_lt hmap

/-- A property of actions that goes from parts to the whole, and that holds of what code outside of the container does
    to the state by itself. -/
structure ServiceProperty (K : ∀ {α : Type}, ServiceAction τ V W E α → Prop) : Prop extends Run.Composable K where
  read : K (get : ServiceAction τ V W E (ContainerState τ V W E))
  changeWorld : ∀ update : W → W, K (modify (ContainerState.changeWorld update) : ServiceAction τ V W E PUnit)
  clearStorage : ∀ storage, K (modify (ContainerState.clearStorage storage) : ServiceAction τ V W E PUnit)

namespace ServiceProperty

variable {K : ∀ {α : Type}, ServiceAction τ V W E α → Prop} (hK : ServiceProperty K)
  {data : ContainerData τ V W E} {resolve : ServiceDescriptor τ V W E → StorageRef → ServiceAction τ V W E V}

include hK

theorem ofExcept {α : Type} (outcome : Except (ServiceException τ E) α) :
    K (Run.ofExcept outcome : ServiceAction τ V W E α) := by
  cases outcome with
  | error exception => exact hK.throw exception
  | ok value => exact hK.pure value

theorem getFrom {descriptors : Option (List (ServiceDescriptor τ V W E))}
    (hresolve : ∀ list, descriptors = some list → ∀ descriptor ∈ list, ∀ storage, K (resolve descriptor storage))
    (type : τ) (storage : StorageRef) : K (getFrom resolve type storage descriptors) := by
  unfold cpv.getFrom
  split
  · exact hK.throw _
  · exact hK.throw _
  · exact hresolve _ rfl _ List.mem_cons_self storage
  · exact hK.throw _

theorem addEach {descriptors : List (ServiceDescriptor τ V W E)}
    (hresolve : ∀ descriptor ∈ descriptors, ∀ storage, K (resolve descriptor storage)) (storage : StorageRef)
    (collection : ServiceCollection V) : K (addEach resolve storage collection descriptors) := by
  induction descriptors generalizing collection with
  | nil => exact hK.pure _
  | cons descriptor rest ih =>
    apply hK.bind (hK.attempt (hresolve descriptor List.mem_cons_self storage))
    rintro (exception | service)
    · exact hK.pure _
    · exact ih (fun other hmem => hresolve other (List.mem_cons_of_mem _ hmem)) _

theorem getManyFrom {descriptors : Option (List (ServiceDescriptor τ V W E))}
    (hresolve : ∀ list, descriptors = some list → ∀ descriptor ∈ list, ∀ storage, K (resolve descriptor storage))
    (collection : ServiceCollection V) (storage : StorageRef) :
    K (getManyFrom resolve collection storage descriptors) := by
  cases descriptors with
  | none => exact hK.pure _
  | some list =>
    exact hK.bind (hK.addEach (hresolve list rfl) storage collection) fun _ => hK.pure _

theorem getDependencyInstance {dependency : ServiceDependency τ}
    (hresolve : ∀ descriptor ∈ data.lists dependency.descriptors, ∀ storage, K (resolve descriptor storage))
    (storage : StorageRef) : K (getDependencyInstance data resolve storage dependency) := by
  have hlist : ∀ list, some (data.lists dependency.descriptors) = some list →
      ∀ descriptor ∈ list, ∀ storage, K (resolve descriptor storage) := by
    rintro _ ⟨⟩
    exact hresolve
  unfold cpv.getDependencyInstance
  cases dependency.kind with
  | single => exact hK.bind (hK.getFrom hlist dependency.type storage) fun _ => hK.pure _
  | vector | optional =>
    exact hK.bind (hK.getManyFrom hlist _ storage) fun _ => hK.bind (hK.ofExcept _) fun _ => hK.pure _

theorem getDependencyInstances {dependencies : List (ServiceDependency τ)}
    (hresolve : ∀ dependency ∈ dependencies, ∀ descriptor ∈ data.lists dependency.descriptors, ∀ storage,
      K (resolve descriptor storage)) (storage : StorageRef) :
    K (getDependencyInstances data resolve storage dependencies) := by
  induction dependencies with
  | nil => exact hK.pure _
  | cons dependency rest ih =>
    apply hK.bind (hK.getDependencyInstance (hresolve dependency List.mem_cons_self) storage)
    intro argument
    exact hK.bind (ih fun other hmem => hresolve other (List.mem_cons_of_mem _ hmem)) fun _ => hK.pure _

theorem programRun {program : ServiceProgram τ V W E}
    (hresolve : ∀ list, program.Resolves data list → ∀ descriptor ∈ data.lists list, ∀ storage,
      K (resolve descriptor storage)) : K (program.run data resolve) := by
  have hnamed : ∀ {type : τ}, program.Uses type → ∀ list, data.getDescriptors type = some list →
      ∀ descriptor ∈ list, ∀ storage, K (resolve descriptor storage) := by
    intro type huses list hlist
    obtain ⟨pointer, hpointer, rfl⟩ := Option.map_eq_some_iff.mp hlist
    exact hresolve pointer ⟨type, huses, hpointer⟩
  induction program with
  | returns service => exact hK.pure service
  | throws exception => exact hK.throw exception
  | effect update next ih =>
    apply hK.bind (hK.changeWorld update)
    intro _
    apply hK.bind hK.read
    intro state
    exact ih state.world (fun list ⟨type, huses, hmap⟩ => hresolve list ⟨type, ⟨_, huses⟩, hmap⟩)
      fun huses => hnamed ⟨_, huses⟩
  | get type storage next ih =>
    apply hK.bind (hK.attempt (hK.getFrom (hnamed (.inl rfl)) type storage))
    intro outcome
    exact ih outcome (fun list ⟨type, huses, hmap⟩ => hresolve list ⟨type, .inr ⟨_, huses⟩, hmap⟩)
      fun huses => hnamed (.inr ⟨_, huses⟩)
  | getMany type collection storage next ih =>
    apply hK.bind (hK.getManyFrom (hnamed (.inl rfl)) collection storage)
    rintro ⟨outcome, collection⟩
    exact ih outcome collection (fun list ⟨type, huses, hmap⟩ => hresolve list ⟨type, .inr ⟨_, _, huses⟩, hmap⟩)
      fun huses => hnamed (.inr ⟨_, _, huses⟩)
  | clear storage next ih =>
    apply hK.bind (hK.clearStorage storage)
    intro _
    exact ih hresolve hnamed

theorem factoryInvoke {factory : ServiceFactory τ V W E}
    (hresolve : ∀ list, factory.Resolves data list → ∀ descriptor ∈ data.lists list, ∀ storage,
      K (resolve descriptor storage)) (type : τ) (storage : StorageRef) :
    K (factory.invoke data resolve type storage) := by
  cases factory with
  | injection dependencies construct =>
    apply hK.bind
    · exact hK.getDependencyInstances (fun dependency hmem => hresolve _ (.inl ⟨dependency, hmem, rfl⟩)) storage
    · intro arguments
      exact hK.programRun fun list hlist => hresolve list (.inr ⟨arguments, hlist⟩)
  | function func => exact hK.programRun fun list hlist => hresolve list ⟨storage, hlist⟩
  | exception => exact hK.throw _

theorem callPatched {original : ServiceAction τ V W E V} {func : Option (StorageRef → V → ServiceProgram τ V W E)}
    (horiginal : K original)
    (hresolve : ∀ list, (∃ code, func = some code ∧ ∃ storage service, (code storage service).Resolves data list) →
      ∀ descriptor ∈ data.lists list, ∀ storage, K (resolve descriptor storage)) (storage : StorageRef) :
    K (callPatched data resolve original func storage) := by
  apply hK.bind horiginal
  intro service
  cases func with
  | none => exact hK.throw _
  | some code => exact hK.programRun fun list hlist => hresolve list ⟨code, rfl, storage, service, hlist⟩

/-- A property that passes from a factory to the descriptor it belongs to holds of every descriptor. -/
theorem getInstance (hdiverge : K (Run.diverge : ServiceAction τ V W E V))
    (hheader : ∀ (header : ServiceHeader τ V) (factory : ServiceAction τ V W E V) (storage : StorageRef),
      K factory → K (header.getInstance factory storage))
    (fuel : Nat) (descriptor : ServiceDescriptor τ V W E) (storage : StorageRef) :
    K (data.getInstance fuel descriptor storage) := by
  induction fuel generalizing descriptor storage with
  | zero => exact hdiverge
  | succ fuel ih =>
    rw [ContainerData.getInstance]
    induction descriptor with
    | registered header factory =>
      exact hheader header _ storage (hK.factoryInvoke (fun _ _ other _ => ih other) header.type storage)
    | patched header original func horiginal =>
      exact hheader header _ storage (hK.callPatched horiginal (fun _ _ other _ => ih other) storage)

/-- A call has a property that all descriptors of the container have. -/
theorem call {fuel : Nat}
    (hresolve : ∀ list, ∀ descriptor ∈ data.lists list, ∀ storage, K (data.getInstance fuel descriptor storage))
    (call : ServiceCall τ V) : K (data.call fuel call) := by
  have hnamed : ∀ {type : τ} (list), data.getDescriptors type = some list →
      ∀ descriptor ∈ list, ∀ storage, K (data.getInstance fuel descriptor storage) := by
    intro type list hlist
    obtain ⟨pointer, -, rfl⟩ := Option.map_eq_some_iff.mp hlist
    exact hresolve pointer
  cases call with
  | get type storage => exact hK.bind (hK.attempt (hK.getFrom hnamed type storage)) fun _ => hK.pure _
  | getMany type collection storage => exact hK.bind (hK.getManyFrom hnamed collection storage) fun _ => hK.pure _
  | clear storage => exact hK.bind (hK.clearStorage storage) fun _ => hK.pure _

theorem calls {fuel : Nat}
    (hresolve : ∀ list, ∀ descriptor ∈ data.lists list, ∀ storage, K (data.getInstance fuel descriptor storage))
    (calls : List (ServiceCall τ V)) : K (data.calls fuel calls) := by
  induction calls with
  | nil => exact hK.pure _
  | cons call rest ih => exact hK.bind (hK.call hresolve call) fun _ => hK.bind ih fun _ => hK.pure _

end ServiceProperty

end cpv
