import Cpv.Container.Instance

namespace cpv

variable {τ V W E : Type}

/-- What an event does to the instances that are kept: a completed run of a factory stores its instance if the
    lifetime wants it, and a clear empties a storage. -/
def ServiceEvent.keep : ServiceEvent τ V E → ServiceCaches V → ServiceCaches V
  | .ran header storage outcome, caches => caches.store header storage outcome
  | .got .., caches => caches
  | .cleared storage, caches => caches.clearStorage storage

/-- The instances that are kept after a log, newest event first. -/
def replay (start : ServiceCaches V) : List (ServiceEvent τ V E) → ServiceCaches V
  | [] => start
  | event :: older => event.keep (replay start older)

def ServiceEvent.header? : ServiceEvent τ V E → Option (ServiceHeader τ V)
  | .ran header .. | .got header .. => some header
  | .cleared _ => none

/-- No factory call has come back whose instance has not been handed out yet. -/
def Settled : List (ServiceEvent τ V E) → Prop
  | .ran .. :: _ => False
  | _ => True

/-- When an event may follow an older log. A factory runs only where nothing is kept, and what is handed out is the
    outcome of a run just made, the instance that is kept, or a complaint about the registration. -/
def ServiceEvent.Allowed (start : ServiceCaches V) (older : List (ServiceEvent τ V E)) : ServiceEvent τ V E → Prop
  | .ran header storage _ =>
    Settled older ∧ header.Usable = true ∧ (replay start older).cached header storage = none
  | .got header storage outcome =>
    (∃ result oldest, older = .ran header storage result :: oldest ∧ outcome = header.surfaced result) ∨
    Settled older ∧ (header.Usable = true ∧ (∃ service, (replay start older).cached header storage = some service ∧
      outcome = .ok service) ∨ header.Usable = false ∧ outcome = .error (.container header.misuse))
  | .cleared _ => Settled older

/-- Every event of a log was allowed where it stands. -/
def Lawful (start : ServiceCaches V) : List (ServiceEvent τ V E) → Prop
  | [] => True
  | event :: older => Lawful start older ∧ event.Allowed start older

/-- Headers in the log that have the same address are the same. -/
def Distinct (log : List (ServiceEvent τ V E)) : Prop :=
  ∀ event ∈ log, ∀ other ∈ log, ∀ header header', event.header? = some header → other.header? = some header' →
    header.address = header'.address → header = header'

/-- The service was handed out, or a factory call for it completed, with this instance. -/
def Hands (header : ServiceHeader τ V) (storage : StorageRef) (service : V) (log : List (ServiceEvent τ V E)) : Prop :=
  .got header storage (.ok service) ∈ log ∨ .ran header storage (.ok service) ∈ log

/-- Whether instances are kept for later calls. -/
def ServiceHeader.Kept (header : ServiceHeader τ V) : Prop :=
  header.lifetime = .Persistent ∨ header.lifetime = .StoragePersistent

/-- Whether calls with the two storages share the instance of a service. -/
def ServiceHeader.Shares (header : ServiceHeader τ V) (storage other : StorageRef) : Prop :=
  header.lifetime = .Persistent ∨ storage = other

/-- What lifetimes promise about a log, newest event first, that began with the instances `start`. -/
structure LifetimesKept (start : ServiceCaches V) (log : List (ServiceEvent τ V E)) : Prop where
  /-- The factory of a persistent service completes once at most. -/
  persistent_once : ∀ {header storage service newer older}, header.lifetime = .Persistent →
    log = newer ++ ServiceEvent.ran header storage (.ok service) :: older → ∀ other service', .ran header other (.ok service') ∉ older
  /-- Every get of a persistent service, whatever the storage, returns that instance. -/
  persistent_same : ∀ {header storage other service service'}, header.lifetime = .Persistent →
    Hands header storage service log → Hands header other service' log → service = service'
  /-- For a service registered with instance that is the instance it was registered with. -/
  persistent_registered : ∀ {header storage service service'}, header.lifetime = .Persistent →
    header.instance_ = some service → Hands header storage service' log → service' = service
  /-- Between two completed runs for the same storage the storage was cleared. -/
  storagePersistent_once : ∀ {header storage service service' newer segment older},
    header.lifetime = .StoragePersistent →
    log = newer ++ ServiceEvent.ran header storage (.ok service) :: (segment ++ ServiceEvent.ran header storage (.ok service') :: older) →
    .cleared storage ∈ segment
  /-- Between two clears, gets with the same storage return the same instance. -/
  storagePersistent_same : ∀ {header storage service service' newer segment older},
    header.lifetime = .StoragePersistent → log = newer ++ (segment ++ older) → .cleared storage ∉ segment →
    Hands header storage service segment → Hands header storage service' segment → service = service'
  /-- A storage gets its own instance: one made for it, or one that was in it at the start, and not cleared since. -/
  storagePersistent_own : ∀ {header storage service newer older}, header.lifetime = .StoragePersistent →
    log = newer ++ ServiceEvent.got header storage (.ok service) :: older →
    (∃ segment oldest, older = segment ++ ServiceEvent.ran header storage (.ok service) :: oldest ∧ .cleared storage ∉ segment) ∨
      (start.storages storage).get header.address = some service ∧ .cleared storage ∉ older
  /-- A get of a transient service makes a factory call of its own. -/
  transient_own : ∀ {header storage outcome newer older}, header.lifetime = .Transient →
    log = newer ++ ServiceEvent.got header storage outcome :: older →
    ∃ result oldest, older = .ran header storage result :: oldest ∧ outcome = header.surfaced result
  /-- Every factory call belongs to one get, which sees its outcome. -/
  ran_got : ∀ {header storage result newer older}, log = newer ++ ServiceEvent.ran header storage result :: older →
    ∃ newest, newer = newest ++ [ServiceEvent.got header storage (header.surfaced result)]
  /-- Only exceptions of the container come out. -/
  got_error : ∀ {header storage exception}, .got header storage (.error exception) ∈ log →
    ∃ inner, exception = .container inner
  /-- After a get that failed, the next get of the same service calls the factory again. -/
  retried : ∀ {header storage exception outcome newer segment older}, header.Usable = true →
    log = newer ++ ServiceEvent.got header storage outcome :: (segment ++ ServiceEvent.got header storage (.error exception) :: older) →
    (∀ other result, .got header other result ∈ segment → ¬ header.Shares other storage) →
    ∃ result oldest, segment = .ran header storage result :: oldest ∧ outcome = header.surfaced result

namespace ServiceCaches

variable {caches : ServiceCaches V} {header other : ServiceHeader τ V} {storage storage' : StorageRef}

theorem cached_of_shares (hshares : header.Shares storage storage') :
    caches.cached header storage = caches.cached header storage' := by
  rcases hshares with hpersistent | rfl
  · simp only [cached, hpersistent]
  · rfl

theorem kept_of_cached {service : V} (hcached : caches.cached header storage = some service) : header.Kept := by
  unfold cached at hcached
  cases hlifetime : header.lifetime <;> rw [hlifetime] at hcached
  · cases hcached
  · exact .inl hlifetime
  · exact .inr hlifetime
  · cases hcached

theorem instance_eq_none (hnone : caches.cached header storage = none) (hpersistent : header.lifetime = .Persistent) :
    header.instance_ = none := by
  simp only [cached, hpersistent, instanceOf, Option.or_eq_none_iff] at hnone
  exact hnone.1

/-- A completed factory call leaves its instance to be kept, unless the service was registered with another. -/
theorem cached_store_self {service : V} (hkept : header.Kept)
    (hinstance : header.lifetime = .Persistent → header.instance_ = none) :
    (caches.store (E := E) header storage (.ok service)).cached header storage = some service := by
  rcases hkept with hpersistent | hstorage
  · simp only [store, cached, hpersistent, instanceOf, setInstance, hinstance hpersistent, Function.update_self,
      Option.none_or]
  · simp only [store, cached, hstorage, setStored, Function.update_self, ServiceStorage.get_set_self]

/-- A factory call changes what is kept for its own service only, and only if it completes. -/
theorem cached_store_other (outcome : Except (ServiceException τ E) V)
    (hother : (∃ service, outcome = .ok service) → other.address = header.address → ¬ header.Shares storage' storage) :
    (caches.store other storage' outcome).cached header storage = caches.cached header storage := by
  cases outcome with
  | error exception => rfl
  | ok service =>
    have hnot := hother ⟨service, rfl⟩
    simp only [store]
    cases hother : other.lifetime <;> cases hlifetime : header.lifetime <;>
      simp only [cached, hlifetime, setInstance, setStored, instanceOf]
    · have hne : header.address ≠ other.address := fun heq => hnot heq.symm (.inl hlifetime)
      rw [Function.update_of_ne hne]
    · rw [Function.update_apply]
      split
      · rename_i hstorage
        have hne : header.address ≠ other.address := fun heq => hnot heq.symm (.inr hstorage.symm)
        rw [hstorage, ServiceStorage.get_set, if_neg hne]
      · rfl

theorem cached_clearStorage (hother : header.lifetime = .StoragePersistent → storage' ≠ storage) :
    (caches.clearStorage storage').cached header storage = caches.cached header storage := by
  cases hlifetime : header.lifetime <;> simp only [cached, hlifetime, clearStorage, instanceOf]
  rw [Function.update_of_ne (hother hlifetime).symm]

end ServiceCaches

section Lawful

variable {start : ServiceCaches V} {log newer segment older : List (ServiceEvent τ V E)}
  {header : ServiceHeader τ V} {storage other : StorageRef} {service : V}

theorem Lawful.of_append (hlawful : Lawful start (newer ++ older)) : Lawful start older := by
  induction newer with
  | nil => exact hlawful
  | cons event rest ih => exact ih hlawful.1

/-- The event that stands before an older log was allowed there. -/
theorem Lawful.allowed {event : ServiceEvent τ V E} (hlawful : Lawful start (newer ++ event :: older)) :
    event.Allowed start older := hlawful.of_append.2

theorem Distinct.header_eq {event event' : ServiceEvent τ V E} {header' : ServiceHeader τ V} (hdistinct : Distinct log)
    (hevent : event ∈ log) (hevent' : event' ∈ log) (hheader : event.header? = some header)
    (hheader' : event'.header? = some header') (haddress : header.address = header'.address) : header = header' :=
  hdistinct event hevent event' hevent' header header' hheader hheader' haddress

theorem Distinct.tail {event : ServiceEvent τ V E} (hdistinct : Distinct (event :: older)) : Distinct older :=
  fun first hfirst second hsecond => hdistinct first (.tail _ hfirst) second (.tail _ hsecond)

/-- The instance that an event hands out or completes is the one kept from then on. -/
theorem Lawful.cached_of_event {event : ServiceEvent τ V E} (hlawful : Lawful start (event :: older))
    (hkept : header.Kept)
    (hevent : event = .got header storage (.ok service) ∨ event = .ran header storage (.ok service)) :
    (replay start (event :: older)).cached header storage = some service := by
  have hran : ∀ {older : List (ServiceEvent τ V E)}, Lawful start (.ran header storage (.ok service) :: older) →
      (replay start (.ran header storage (.ok service) :: older)).cached header storage = some service :=
    fun hlawful => ServiceCaches.cached_store_self (E := E) hkept (ServiceCaches.instance_eq_none hlawful.2.2.2)
  rcases hevent with rfl | rfl
  · rcases hlawful.2 with ⟨result, oldest, rfl, hsurfaced⟩ | ⟨-, ⟨-, service', hcached, hok⟩ | ⟨-, herror⟩⟩
    · obtain rfl := ServiceHeader.surfaced_ok hsurfaced.symm
      exact hran hlawful.1
    · cases hok
      exact hcached
    · cases herror
  · exact hran hlawful

/-- What is kept stays as it is, until its storage is cleared. -/
theorem Lawful.cached_cons {event : ServiceEvent τ V E} (hlawful : Lawful start (event :: older))
    (hdistinct : ∀ header', event.header? = some header' → header'.address = header.address → header' = header)
    (hclear : header.lifetime = .StoragePersistent → event ≠ .cleared storage)
    (hcached : (replay start older).cached header storage = some service) :
    (replay start (event :: older)).cached header storage = some service := by
  cases event with
  | got header' storage' outcome => exact hcached
  | cleared storage' =>
    have hother : header.lifetime = .StoragePersistent → storage' ≠ storage :=
      fun hlifetime heq => hclear hlifetime (congrArg _ heq)
    exact (ServiceCaches.cached_clearStorage hother).trans hcached
  | ran header' storage' outcome =>
    have hnone := hlawful.2.2.2
    refine (ServiceCaches.cached_store_other outcome fun _ haddress hshares => ?_).trans hcached
    -- a run for the same cache is not allowed while something is kept
    rw [hdistinct header' rfl haddress, ServiceCaches.cached_of_shares hshares, hcached] at hnone
    cases hnone

/-- The instance handed out anywhere in a stretch of the log without a clear is the one kept at its end. -/
theorem Lawful.cached_of_hands (hlawful : Lawful start (segment ++ older)) (hdistinct : Distinct (segment ++ older))
    (hkept : header.Kept) (hclear : header.lifetime = .StoragePersistent → .cleared storage ∉ segment)
    (hshares : header.Shares other storage) (hhands : Hands header other service segment) :
    (replay start (segment ++ older)).cached header storage = some service := by
  induction segment with
  | nil => rcases hhands with hmem | hmem <;> cases hmem
  | cons event rest ih =>
    have hcases : (event = .got header other (.ok service) ∨ event = .ran header other (.ok service)) ∨
        Hands header other service rest := by
      rcases hhands with hmem | hmem <;> rcases List.mem_cons.mp hmem with heq | hrest
      · exact .inl (.inl heq.symm)
      · exact .inr (.inl hrest)
      · exact .inl (.inr heq.symm)
      · exact .inr (.inr hrest)
    rcases hcases with hevent | hrest
    · rw [← ServiceCaches.cached_of_shares hshares]
      exact Lawful.cached_of_event hlawful hkept hevent
    · have hbefore := ih hlawful.1
        hdistinct.tail
        (fun hlifetime hmem => hclear hlifetime (.tail _ hmem)) hrest
      refine Lawful.cached_cons hlawful (fun header' hheader' haddress => ?_)
        (fun hlifetime heq => hclear hlifetime (heq ▸ .head _)) hbefore
      rcases hrest with hmem | hmem
      · exact hdistinct.header_eq (.head _) (.tail _ (List.mem_append_left _ hmem)) hheader' rfl haddress
      · exact hdistinct.header_eq (.head _) (.tail _ (List.mem_append_left _ hmem)) hheader' rfl haddress

/-- Where an instance that is kept comes from: a completed run since the last clear, or the start. -/
theorem Lawful.cached_source (hlawful : Lawful start log)
    (hdistinct : ∀ event ∈ log, ∀ header', event.header? = some header' →
      header'.address = header.address → header' = header)
    (hcached : (replay start log).cached header storage = some service) :
    (∃ segment other oldest, log = segment ++ ServiceEvent.ran header other (.ok service) :: oldest ∧ header.Shares other storage ∧
      (header.lifetime = .StoragePersistent → .cleared storage ∉ segment)) ∨
    start.cached header storage = some service ∧ (header.lifetime = .StoragePersistent → .cleared storage ∉ log) := by
  induction log with
  | nil => exact .inr ⟨hcached, fun _ hmem => by cases hmem⟩
  | cons event older ih =>
    -- an event that leaves what is kept for the service as it was
    have hkeeps : (header.lifetime = .StoragePersistent → event ≠ .cleared storage) →
        (replay start older).cached header storage = some service →
        (∃ segment other oldest, event :: older = segment ++ ServiceEvent.ran header other (.ok service) :: oldest ∧
          header.Shares other storage ∧ (header.lifetime = .StoragePersistent → .cleared storage ∉ segment)) ∨
        start.cached header storage = some service ∧
          (header.lifetime = .StoragePersistent → .cleared storage ∉ event :: older) := by
      intro hclear hbefore
      rcases ih hlawful.1 (fun other hmem => hdistinct other (.tail _ hmem)) hbefore with
        ⟨segment, other, oldest, rfl, hshares, hsegment⟩ | ⟨hstart, hlog⟩
      · refine .inl ⟨event :: segment, other, oldest, rfl, hshares, fun hlifetime hmem => ?_⟩
        rcases List.mem_cons.mp hmem with heq | hmem
        · exact hclear hlifetime heq.symm
        · exact hsegment hlifetime hmem
      · refine .inr ⟨hstart, fun hlifetime hmem => ?_⟩
        rcases List.mem_cons.mp hmem with heq | hmem
        · exact hclear hlifetime heq.symm
        · exact hlog hlifetime hmem
    cases event with
    | got header' storage' outcome => exact hkeeps (fun _ heq => by cases heq) hcached
    | cleared storage' =>
      by_cases hother : header.lifetime = .StoragePersistent ∧ storage' = storage
      · obtain ⟨hlifetime, rfl⟩ := hother
        simp only [replay, ServiceEvent.keep, ServiceCaches.cached, hlifetime, ServiceCaches.clearStorage,
          Function.update_self, ServiceStorage.get_clear] at hcached
        cases hcached
      · have hne : header.lifetime = .StoragePersistent → storage' ≠ storage :=
          fun hlifetime heq => hother ⟨hlifetime, heq⟩
        refine hkeeps (fun hlifetime heq => ?_) ((ServiceCaches.cached_clearStorage hne).symm.trans hcached)
        cases heq
        exact hne hlifetime rfl
    | ran header' storage' outcome =>
      by_cases hsame : (∃ service, outcome = .ok service) ∧ header'.address = header.address ∧
          header.Shares storage' storage
      · obtain ⟨⟨completed, rfl⟩, haddress, hshares⟩ := hsame
        obtain rfl := hdistinct _ (.head _) header' rfl haddress
        have hkept := ServiceCaches.kept_of_cached hcached
        have hstored := Lawful.cached_of_event hlawful hkept (.inr rfl)
        rw [ServiceCaches.cached_of_shares hshares, hcached] at hstored
        cases hstored
        exact .inl ⟨[], storage', older, rfl, hshares, fun _ hmem => by cases hmem⟩
      · refine hkeeps (fun _ heq => by cases heq) ?_
        rwa [replay, ServiceEvent.keep, ServiceCaches.cached_store_other outcome
          fun hok haddress hshares => hsame ⟨hok, haddress, hshares⟩] at hcached

/-- Right after a factory call its get hands the outcome out. -/
theorem ServiceEvent.Allowed.got_of_ran {event : ServiceEvent τ V E} {result : Except (ServiceException τ E) V}
    (hallowed : event.Allowed start (.ran header storage result :: older)) :
    event = .got header storage (header.surfaced result) := by
  cases event with
  | got header' storage' outcome =>
    rcases hallowed with ⟨result', oldest, heq, rfl⟩ | ⟨hsettled, -⟩
    · cases heq
      rfl
    · exact hsettled.elim
  | ran header' storage' outcome => exact hallowed.1.elim
  | cleared storage' => exact hallowed.elim

theorem Lawful.got_of_ran {result : Except (ServiceException τ E) V}
    (hlawful : Lawful start (newer ++ ServiceEvent.ran header storage result :: older))
    (hsettled : Settled (newer ++ ServiceEvent.ran header storage result :: older)) :
    ∃ newest, newer = newest ++ [ServiceEvent.got header storage (header.surfaced result)] := by
  rcases List.eq_nil_or_concat newer with rfl | ⟨newest, event, rfl⟩
  · exact hsettled.elim
  · rw [List.concat_eq_append, List.append_assoc] at hlawful
    have hevent := hlawful.allowed.got_of_ran
    exact ⟨newest, by rw [hevent, List.concat_eq_append]⟩

/-- A get that failed leaves nothing kept for its service, and nothing comes to be kept before the next get of it. -/
theorem Lawful.cached_none_of_error {exception : ServiceException τ E}
    (hlawful : Lawful start (segment ++ ServiceEvent.got header storage (.error exception) :: older))
    (hdistinct : ∀ event ∈ segment, ∀ header', event.header? = some header' → header'.address = header.address →
      header' = header)
    (husable : header.Usable = true)
    (hnext : ∀ other result, .got header other result ∈ segment → ¬ header.Shares other storage) :
    (replay start (segment ++ ServiceEvent.got header storage (.error exception) :: older)).cached header storage = none ∨
      ∃ other result oldest, segment = .ran header other result :: oldest ∧ header.Shares other storage := by
  induction segment with
  | nil =>
    left
    rcases hlawful.2 with ⟨result, oldest, rfl, hsurfaced⟩ | ⟨-, ⟨-, service, -, hok⟩ | ⟨hunusable, -⟩⟩
    · rcases result with failed | service
      · exact hlawful.1.2.2.2
      · cases hsurfaced
    · cases hok
    · rw [husable] at hunusable
      cases hunusable
  | cons event rest ih =>
    rcases ih hlawful.1 (fun other hmem => hdistinct other (.tail _ hmem))
      (fun other result hmem => hnext other result (.tail _ hmem)) with hnone | ⟨other, result, oldest, rfl, hshares⟩
    · cases event with
      | got header' storage' outcome => exact .inl hnone
      | cleared storage' =>
        left
        by_cases hother : header.lifetime = .StoragePersistent ∧ storage' = storage
        · obtain ⟨hlifetime, rfl⟩ := hother
          simp only [List.cons_append, replay, ServiceEvent.keep, ServiceCaches.cached, hlifetime,
            ServiceCaches.clearStorage, Function.update_self, ServiceStorage.get_clear]
        · exact (ServiceCaches.cached_clearStorage fun hlifetime heq => hother ⟨hlifetime, heq⟩).trans hnone
      | ran header' storage' outcome =>
        by_cases hsame : header'.address = header.address ∧ header.Shares storage' storage
        · obtain ⟨haddress, hshares⟩ := hsame
          obtain rfl := hdistinct _ (.head _) header' rfl haddress
          exact .inr ⟨storage', outcome, rest, rfl, hshares⟩
        · left
          exact (ServiceCaches.cached_store_other outcome fun _ haddress hshares =>
            hsame ⟨haddress, hshares⟩).trans hnone
    · -- the get of that run would stand in between
      obtain rfl := hlawful.2.got_of_ran
      exact absurd hshares (hnext other _ (.head _))

theorem Lawful.retried {exception : ServiceException τ E} {outcome : Except (ServiceException τ E) V}
    (hlawful : Lawful start
      (newer ++ ServiceEvent.got header storage outcome :: (segment ++ ServiceEvent.got header storage (.error exception) :: older)))
    (hdistinct : ∀ event ∈ segment, ∀ header', event.header? = some header' → header'.address = header.address →
      header' = header)
    (husable : header.Usable = true)
    (hnext : ∀ other result, .got header other result ∈ segment → ¬ header.Shares other storage) :
    ∃ result oldest, segment = .ran header storage result :: oldest ∧ outcome = header.surfaced result := by
  have hallowed := hlawful.allowed
  rcases hlawful.of_append.1.cached_none_of_error hdistinct husable hnext with hnone | ⟨other, result, oldest, rfl, -⟩
  · rcases hallowed with ⟨result, oldest, heq, hsurfaced⟩ | ⟨-, ⟨-, service, hcached, -⟩ | ⟨hunusable, -⟩⟩
    · cases segment with
      | nil => cases heq
      | cons event rest =>
        cases heq
        exact ⟨result, rest, rfl, hsurfaced⟩
    · rw [hnone] at hcached
      cases hcached
    · rw [husable] at hunusable
      cases hunusable
  · have hgot := hallowed.got_of_ran
    cases hgot
    exact ⟨result, oldest, rfl, rfl⟩

/-- Every get is served by a factory call of its own, by what is kept, or not at all. -/
theorem Lawful.served {outcome : Except (ServiceException τ E) V}
    (hlawful : Lawful start (newer ++ ServiceEvent.got header storage outcome :: older)) :
    (∃ result oldest, older = .ran header storage result :: oldest ∧ outcome = header.surfaced result) ∨
    (∃ service, (replay start older).cached header storage = some service ∧ outcome = .ok service) ∨
    outcome = .error (.container header.misuse) ∧ header.Usable = false := by
  rcases hlawful.allowed with hown | ⟨-, ⟨-, hkept⟩ | ⟨hunusable, hmisuse⟩⟩
  · exact .inl hown
  · exact .inr (.inl hkept)
  · exact .inr (.inr ⟨hmisuse, hunusable⟩)

/-- In a log with a get of a service, headers at its address are its own. -/
theorem Distinct.of_got {outcome : Except (ServiceException τ E) V} (hdistinct : Distinct log)
    (hmem : .got header storage outcome ∈ log) :
    ∀ event ∈ log, ∀ header', event.header? = some header' → header'.address = header.address → header' = header :=
  fun event hevent header' hheader' haddress => hdistinct event hevent _ hmem header' header hheader' rfl haddress

theorem Distinct.of_append (hdistinct : Distinct (newer ++ older)) : Distinct older :=
  fun first hfirst second hsecond =>
    hdistinct first (List.mem_append_right _ hfirst) second (List.mem_append_right _ hsecond)

/-- The instance of a persistent service, handed out anywhere in a log, is the one kept at its end. -/
theorem Lawful.cached_of_persistent (hlawful : Lawful start log) (hdistinct : Distinct log)
    (hpersistent : header.lifetime = .Persistent) (hhands : Hands header other service log) (storage : StorageRef) :
    (replay start log).cached header storage = some service := by
  rw [← List.append_nil log] at hlawful hdistinct ⊢
  refine hlawful.cached_of_hands hdistinct (.inl hpersistent) (fun hlifetime => ?_) (.inl hpersistent) hhands
  rw [hpersistent] at hlifetime
  cases hlifetime

/-- A log in which every event was allowed keeps the promises of the lifetimes. -/
theorem Lawful.lifetimesKept (hlawful : Lawful start log) (hsettled : Settled log) (hdistinct : Distinct log) :
    LifetimesKept start log where
  persistent_once := by
    rintro header storage service newer older hpersistent rfl other service' hmem
    have hnone := hlawful.allowed.2.2
    have hcached := hlawful.of_append.1.cached_of_persistent
      hdistinct.of_append.tail hpersistent (.inr hmem) storage
    rw [hnone] at hcached
    cases hcached
  persistent_same := by
    intro header storage other service service' hpersistent hhands hhands'
    have hfirst := hlawful.cached_of_persistent hdistinct hpersistent hhands storage
    have hsecond := hlawful.cached_of_persistent hdistinct hpersistent hhands' storage
    exact Option.some.inj (hfirst.symm.trans hsecond)
  persistent_registered := by
    intro header storage service service' hpersistent hinstance hhands
    have hcached := hlawful.cached_of_persistent hdistinct hpersistent hhands storage
    simp only [ServiceCaches.cached, hpersistent, ServiceCaches.instanceOf, hinstance, Option.some_or] at hcached
    exact (Option.some.inj hcached).symm
  storagePersistent_once := by
    rintro header storage service service' newer segment older hlifetime rfl
    by_contra hclear
    have hnone := hlawful.allowed.2.2
    have hbefore := hlawful.of_append.1
    have hdistinct' : Distinct (segment ++ ServiceEvent.ran header storage (.ok service') :: older) :=
      hdistinct.of_append.tail
    rw [List.append_cons] at hbefore hdistinct' hnone
    have hclear' : .cleared storage ∉ segment ++ [ServiceEvent.ran header storage (.ok service')] := by
      intro hmem
      rcases List.mem_append.mp hmem with hin | hlast
      · exact hclear hin
      · cases List.mem_singleton.mp hlast
    have hcached := hbefore.cached_of_hands hdistinct' (.inr hlifetime) (fun _ => hclear') (.inr rfl)
      (.inr (List.mem_append_right _ List.mem_cons_self))
    rw [hnone] at hcached
    cases hcached
  storagePersistent_same := by
    rintro header storage service service' newer segment older hlifetime rfl hclear hhands hhands'
    have hcached := fun service (hhands : Hands header storage service segment) =>
      hlawful.of_append.cached_of_hands hdistinct.of_append (.inr hlifetime) (fun _ => hclear) (.inr rfl) hhands
    exact Option.some.inj ((hcached service hhands).symm.trans (hcached service' hhands'))
  storagePersistent_own := by
    rintro header storage service newer older hlifetime rfl
    rcases hlawful.served with ⟨result, oldest, rfl, hsurfaced⟩ | ⟨service', hcached, hok⟩ | ⟨hmisuse, -⟩
    · rw [ServiceHeader.surfaced_ok hsurfaced.symm]
      exact .inl ⟨[], oldest, rfl, by simp⟩
    · cases hok
      have hheader := hdistinct.of_got (List.mem_append_right _ (.head _))
      rcases hlawful.of_append.1.cached_source
          (fun event hmem => hheader event (List.mem_append_right _ (.tail _ hmem))) hcached with
        ⟨segment, other, oldest, rfl, hpersistent | rfl, hclear⟩ | ⟨hstart, hclear⟩
      · rw [hlifetime] at hpersistent
        cases hpersistent
      · exact .inl ⟨segment, oldest, rfl, hclear hlifetime⟩
      · simp only [ServiceCaches.cached, hlifetime] at hstart
        exact .inr ⟨hstart, hclear hlifetime⟩
    · cases hmisuse
  transient_own := by
    rintro header storage outcome newer older hlifetime rfl
    rcases hlawful.served with hown | ⟨service, hcached, -⟩ | ⟨-, hunusable⟩
    · exact hown
    · simp only [ServiceCaches.cached, hlifetime] at hcached
      cases hcached
    · simp only [ServiceHeader.Usable, hlifetime] at hunusable
      cases hunusable
  ran_got := by
    rintro header storage result newer older rfl
    exact hlawful.got_of_ran hsettled
  got_error := by
    intro header storage exception hmem
    obtain ⟨newer, older, rfl⟩ := List.append_of_mem hmem
    rcases hlawful.served with ⟨result, oldest, -, hsurfaced⟩ | ⟨service, -, hok⟩ | ⟨hmisuse, -⟩
    · exact ServiceHeader.surfaced_error hsurfaced.symm
    · cases hok
    · cases hmisuse
      exact ⟨_, rfl⟩
  retried := by
    rintro header storage exception outcome newer segment older husable rfl hnext
    have hheader := hdistinct.of_got (List.mem_append_right _ (.head _))
    exact hlawful.retried (fun event hmem => hheader event
      (List.mem_append_right _ (.tail _ (List.mem_append_left _ hmem)))) husable hnext

end Lawful

end cpv
