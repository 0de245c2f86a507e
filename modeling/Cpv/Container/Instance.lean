import Cpv.Container.Model

namespace cpv

open Run (exec)

variable {τ V W E : Type}

/-- Whether `getInstance` of such a descriptor comes to its cache and its factory. -/
def ServiceHeader.Usable (header : ServiceHeader τ V) : Bool :=
  match header.lifetime with
  | .Transient => true
  | .Persistent | .StoragePersistent => header.copyConstructible
  | .other _ => false

/-- What `getInstance` throws when it does not come that far. -/
def ServiceHeader.misuse (header : ServiceHeader τ V) : ContainerException τ E :=
  match header.lifetime with
  | .Persistent => .persistentNotCopyConstructible header.type
  | .StoragePersistent | .Transient => .storagePersistentNotCopyConstructible header.type
  | .other value => .unsupportedLifetime header.type value

namespace ServiceCaches

/-- The instance that is kept for a descriptor and a storage. -/
def cached (caches : ServiceCaches V) (header : ServiceHeader τ V) (storage : StorageRef) : Option V :=
  match header.lifetime with
  | .Persistent => caches.instanceOf header
  | .StoragePersistent => (caches.storages storage).get header.address
  | .Transient | .other _ => none

/-- What a factory call leaves behind for later: its instance if the lifetime wants it, nothing if it failed. -/
def store (header : ServiceHeader τ V) (storage : StorageRef) :
    Except (ServiceException τ E) V → ServiceCaches V → ServiceCaches V
  | .error _, caches => caches
  | .ok service, caches =>
    match header.lifetime with
    | .Persistent => caches.setInstance header.address service
    | .StoragePersistent => caches.setStored storage header.address service
    | .Transient | .other _ => caches

end ServiceCaches

namespace ServiceHeader

variable (header : ServiceHeader τ V) (factory : ServiceAction τ V W E V) (storage : StorageRef)
  (state : ContainerState τ V W E)

/-- The state after a factory call that `getInstance` made came back. -/
def afterRun (outcome : Except (ServiceException τ E) V) (state : ContainerState τ V W E) :
    ContainerState τ V W E :=
  (((state.record (.ran header storage outcome)).changeCaches
    (ServiceCaches.store header storage outcome))).record (.got header storage (header.surfaced outcome))

theorem exec_invoke :
    exec (header.invoke factory storage) state = (exec factory state).map fun result =>
      (result.1, result.2.record (.ran header storage result.1)) := by
  unfold invoke
  rw [Run.exec_bind, Run.exec_attempt]
  cases exec factory state with
  | none => rfl
  | some result => rfl

/-- A factory call whose instance is stored before it is returned. -/
theorem exec_invoke_store {change : V → ServiceCaches V → ServiceCaches V}
    (hchange : ∀ service, ServiceCaches.store (E := E) header storage (.ok service) = change service) :
    exec (do
      let service ← header.invoke factory storage
      modify (ContainerState.changeCaches (change service))
      pure service) state = (exec factory state).map fun result =>
        (result.1, (result.2.record (.ran header storage result.1)).changeCaches
          (ServiceCaches.store header storage result.1)) := by
  rw [Run.exec_bind, exec_invoke]
  rcases exec factory state with _ | ⟨exception | service, mid⟩
  · rfl
  · rfl
  · simp only [Option.map_some, hchange]
    rfl

/-- What `produce` does, in terms of the cache: a hit, a factory call, or an exception of its own. -/
theorem exec_produce :
    exec (header.produce factory storage) state =
      if header.Usable then
        match state.cached header storage with
        | some service => some (.ok service, state)
        | none => (exec factory state).map fun result =>
            (result.1, (result.2.record (.ran header storage result.1)).changeCaches
              (ServiceCaches.store header storage result.1))
      else some (.error (.container header.misuse), state) := by
  unfold produce Usable misuse ServiceCaches.cached
  cases hlifetime : header.lifetime with
  | Transient =>
    have hstore : ∀ outcome, ServiceCaches.store (E := E) header storage outcome = id := by
      rintro (exception | service)
      · rfl
      · funext caches
        simp only [ServiceCaches.store, hlifetime, id]
    rw [if_pos rfl, exec_invoke]
    congr 1
    funext result
    rw [hstore]
    rfl
  | Persistent =>
    have hstore : ∀ service, ServiceCaches.store (E := E) header storage (.ok service) =
        fun caches => caches.setInstance header.address service := by
      intro service
      funext caches
      simp only [ServiceCaches.store, hlifetime]
    cases header.copyConstructible with
    | false => rfl
    | true =>
      simp only [if_true]
      rw [Run.exec_bind_ok (Run.exec_get state)]
      cases state.instanceOf header with
      | some service => rfl
      | none => exact exec_invoke_store header factory storage state hstore
  | StoragePersistent =>
    have hstore : ∀ service, ServiceCaches.store (E := E) header storage (.ok service) =
        fun caches => caches.setStored storage header.address service := by
      intro service
      funext caches
      simp only [ServiceCaches.store, hlifetime]
    cases header.copyConstructible with
    | false => rfl
    | true =>
      simp only [if_true]
      rw [Run.exec_bind_ok (Run.exec_get state)]
      cases (state.storages storage).get header.address with
      | some service => rfl
      | none => exact exec_invoke_store header factory storage state hstore
  | other value => rfl

/-- What `getInstance` does, in terms of the cache. -/
theorem exec_getInstance :
    exec (header.getInstance factory storage) state =
      if header.Usable then
        match state.cached header storage with
        | some service => some (.ok service, state.record (.got header storage (.ok service)))
        | none => (exec factory state).map fun result =>
            (header.surfaced result.1, header.afterRun storage result.1 result.2)
      else some (.error (.container header.misuse),
        state.record (.got header storage (.error (.container header.misuse)))) := by
  unfold getInstance
  rw [Run.exec_bind, Run.exec_attempt, exec_produce]
  cases header.Usable with
  | false => rfl
  | true =>
    simp only [if_true]
    cases state.cached header storage with
    | some service => rfl
    | none => cases exec factory state <;> rfl

variable {header factory storage state}

/-- The ways `getInstance` comes back: with the kept instance, with the outcome of its own factory call, or with an
    exception about the registration. -/
theorem getInstance_cases {outcome : Except (ServiceException τ E) V} {after : ContainerState τ V W E}
    (hexec : exec (header.getInstance factory storage) state = some (outcome, after)) :
    (∃ service, header.Usable = true ∧ state.cached header storage = some service ∧ outcome = .ok service ∧
      after = state.record (.got header storage (.ok service))) ∨
    (∃ result mid, header.Usable = true ∧ state.cached header storage = none ∧
      exec factory state = some (result, mid) ∧ outcome = header.surfaced result ∧
      after = header.afterRun storage result mid) ∨
    header.Usable = false ∧ outcome = .error (.container header.misuse) ∧
      after = state.record (.got header storage (.error (.container header.misuse))) := by
  rw [exec_getInstance] at hexec
  cases husable : header.Usable with
  | false =>
    rw [husable] at hexec
    cases hexec
    exact .inr (.inr ⟨rfl, rfl, rfl⟩)
  | true =>
    rw [husable, if_pos rfl] at hexec
    cases hcached : state.cached header storage with
    | some service =>
      rw [hcached] at hexec
      cases hexec
      exact .inl ⟨service, rfl, rfl, rfl, rfl⟩
    | none =>
      rw [hcached] at hexec
      obtain ⟨⟨result, mid⟩, hfactory, heq⟩ := Option.map_eq_some_iff.mp hexec
      cases heq
      exact .inr (.inl ⟨result, mid, rfl, rfl, hfactory, rfl, rfl⟩)

theorem total_getInstance (hfactory : Run.Total factory) : Run.Total (header.getInstance factory storage) := by
  intro state
  rw [exec_getInstance]
  cases header.Usable with
  | false => exact ⟨_, _, rfl⟩
  | true =>
    cases state.cached header storage with
    | some service => exact ⟨_, _, rfl⟩
    | none =>
      obtain ⟨outcome, after, hexec⟩ := hfactory state
      exact ⟨_, _, by rw [hexec]; rfl⟩

/-- Whatever the factory threw, `getInstance` throws exceptions of the container only. -/
theorem surfaced_error {result : Except (ServiceException τ E) V} {exception : ServiceException τ E}
    (herror : header.surfaced result = .error exception) : ∃ inner, exception = .container inner := by
  rcases result with (inner | inner) | service <;> cases herror
  · exact ⟨inner, rfl⟩
  · exact ⟨_, rfl⟩

theorem surfaced_ok {result : Except (ServiceException τ E) V} {service : V}
    (hok : header.surfaced result = .ok service) : result = .ok service := by
  rcases result with (inner | inner) | other <;> cases hok
  rfl

theorem getInstance_error {after : ContainerState τ V W E} {exception : ServiceException τ E}
    (hexec : exec (header.getInstance factory storage) state = some (.error exception, after)) :
    ∃ inner, exception = .container inner := by
  rcases getInstance_cases hexec with ⟨_, -, -, hok, -⟩ | ⟨_, _, -, -, -, hsurfaced, -⟩ | ⟨-, hmisuse, -⟩
  · cases hok
  · exact surfaced_error hsurfaced.symm
  · cases hmisuse
    exact ⟨_, rfl⟩

/-- The last thing logged is what was handed out. -/
theorem getInstance_log {outcome : Except (ServiceException τ E) V} {after : ContainerState τ V W E}
    (hexec : exec (header.getInstance factory storage) state = some (outcome, after)) :
    ∃ older, after.log = .got header storage outcome :: older := by
  rcases getInstance_cases hexec with ⟨_, -, -, rfl, rfl⟩ | ⟨_, _, -, -, -, rfl, rfl⟩ | ⟨-, rfl, rfl⟩
  · exact ⟨_, rfl⟩
  · exact ⟨_, rfl⟩
  · exact ⟨_, rfl⟩

end ServiceHeader

/-- A missing list is as good as an empty one. -/
theorem getFrom_eq (resolve : ServiceDescriptor τ V W E → StorageRef → ServiceAction τ V W E V) (type : τ)
    (storage : StorageRef) (descriptors : Option (List (ServiceDescriptor τ V W E))) :
    getFrom resolve type storage descriptors = getFrom resolve type storage (some (descriptors.getD [])) := by
  cases descriptors <;> rfl

theorem getManyFrom_eq (resolve : ServiceDescriptor τ V W E → StorageRef → ServiceAction τ V W E V)
    (collection : ServiceCollection V) (storage : StorageRef)
    (descriptors : Option (List (ServiceDescriptor τ V W E))) :
    getManyFrom resolve collection storage descriptors =
      getManyFrom resolve collection storage (some (descriptors.getD [])) := by
  cases descriptors <;> rfl

/-- Every descriptor gets its instances the same way, from the factory it owns. -/
theorem ServiceDescriptor.getInstance_eq (descriptor : ServiceDescriptor τ V W E) (data : ContainerData τ V W E)
    (resolve : ServiceDescriptor τ V W E → StorageRef → ServiceAction τ V W E V) (storage : StorageRef) :
    ∃ factory, descriptor.getInstance data resolve storage = descriptor.header.getInstance factory storage := by
  cases descriptor with
  | registered header factory => exact ⟨_, rfl⟩
  | patched header original func => exact ⟨_, rfl⟩

namespace ContainerData

variable {data : ContainerData τ V W E} {fuel : Nat} {descriptor : ServiceDescriptor τ V W E} {storage : StorageRef}
  {state after : ContainerState τ V W E}

theorem getInstance_error {exception : ServiceException τ E}
    (hexec : exec (data.getInstance fuel descriptor storage) state = some (.error exception, after)) :
    ∃ inner, exception = .container inner := by
  cases fuel with
  | zero => cases hexec
  | succ fuel =>
    obtain ⟨factory, hfactory⟩ := descriptor.getInstance_eq data (data.getInstance fuel) storage
    rw [getInstance, hfactory] at hexec
    exact ServiceHeader.getInstance_error hexec

theorem getInstance_log {outcome : Except (ServiceException τ E) V}
    (hexec : exec (data.getInstance fuel descriptor storage) state = some (outcome, after)) :
    ∃ older, after.log = .got descriptor.header storage outcome :: older := by
  cases fuel with
  | zero => cases hexec
  | succ fuel =>
    obtain ⟨factory, hfactory⟩ := descriptor.getInstance_eq data (data.getInstance fuel) storage
    rw [getInstance, hfactory] at hexec
    exact ServiceHeader.getInstance_log hexec

end ContainerData

end cpv
