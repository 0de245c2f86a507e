import Cpv.Container.Patch

namespace cpv

open Run (exec)

variable {τ V W E : Type}

/-- The header of a wrapper created at an address. -/
def ServiceHeader.wrapped (header : ServiceHeader τ V) (address : Nat) : ServiceHeader τ V :=
  { header with
    address := address
    instance_ := none }

/-- A descriptor wrapped by a function. -/
def ServiceDescriptor.wrap (descriptor : ServiceDescriptor τ V W E) (next : Nat) (function : PatchFunction τ V W E) :
    ServiceDescriptor τ V W E :=
  .patched (descriptor.header.wrapped next) descriptor (some function.code)

/-- A descriptor wrapped by one function after the other, at consecutive addresses. -/
def ServiceDescriptor.wrapAll (descriptor : ServiceDescriptor τ V W E) (next : Nat) :
    List (PatchFunction τ V W E) → ServiceDescriptor τ V W E
  | [] => descriptor
  | function :: rest => (descriptor.wrap next function).wrapAll (next + 1) rest

/-- A wrapper and what it wraps, with what its function does to services. -/
structure Link (τ V : Type) where
  outer : ServiceHeader τ V
  inner : ServiceHeader τ V
  apply : V → V

/-- The links of a descriptor wrapped by one function after the other, from the inside. -/
def links (header : ServiceHeader τ V) (next : Nat) : List (PatchFunction τ V W E) → List (Link τ V)
  | [] => []
  | function :: rest => ⟨header.wrapped next, header, function.apply⟩ :: links (header.wrapped next) (next + 1) rest

/-- What the wrapper keeps is what the function makes of what the wrapped descriptor keeps. -/
def Link.Holds (link : Link τ V) (caches : ServiceCaches V) (storage : StorageRef) : Prop :=
  ∀ service, caches.cached link.outer storage = some service →
    ∃ original, caches.cached link.inner storage = some original ∧ service = link.apply original

/-- A set of links in which every descriptor wraps one and is wrapped by one at most. -/
structure Linked (chain : List (Link τ V)) : Prop where
  lifetime : ∀ link ∈ chain, link.outer.lifetime = link.inner.lifetime
  unregistered : ∀ link ∈ chain, link.outer.instance_ = none
  newer : ∀ link ∈ chain, link.inner.address < link.outer.address
  inner_inj : ∀ link ∈ chain, ∀ other ∈ chain, link.inner.address = other.inner.address → link = other
  outer_inj : ∀ link ∈ chain, ∀ other ∈ chain, link.outer.address = other.outer.address → link = other

/-- The wrappers of a chain are created at the addresses from `next` on, and wrap each other. -/
theorem links_address {header : ServiceHeader τ V} {next : Nat} {functions : List (PatchFunction τ V W E)}
    {link : Link τ V} (hlink : link ∈ links header next functions) :
    next ≤ link.outer.address ∧ (link.inner.address = header.address ∨ next ≤ link.inner.address) := by
  induction functions generalizing header next with
  | nil => cases hlink
  | cons function rest ih =>
    rcases List.mem_cons.mp hlink with rfl | hrest
    · exact ⟨Nat.le_refl _, .inl rfl⟩
    · obtain ⟨houter, hinner⟩ := ih hrest
      simp only [ServiceHeader.wrapped] at hinner
      omega

theorem linked_links {header : ServiceHeader τ V} {next : Nat} (hnext : header.address < next)
    (functions : List (PatchFunction τ V W E)) : Linked (links header next functions) := by
  induction functions generalizing header next with
  | nil =>
    constructor <;> exact fun _ hmem => by cases hmem
  | cons function rest ih =>
    have htail := @ih (header.wrapped next) (next + 1) (Nat.lt_succ_self next)
    -- the first link wraps the oldest header, and no other wraps it
    have hfirst : ∀ link ∈ links (header.wrapped next) (next + 1) rest,
        next < link.outer.address ∧ header.address < link.inner.address := by
      intro link hlink
      obtain ⟨houter, hinner⟩ := links_address hlink
      simp only [ServiceHeader.wrapped] at hinner
      omega
    constructor
    case lifetime =>
      intro link hlink
      rcases List.mem_cons.mp hlink with rfl | hrest
      · rfl
      · exact htail.lifetime link hrest
    case unregistered =>
      intro link hlink
      rcases List.mem_cons.mp hlink with rfl | hrest
      · rfl
      · exact htail.unregistered link hrest
    case newer =>
      intro link hlink
      rcases List.mem_cons.mp hlink with rfl | hrest
      · exact hnext
      · exact htail.newer link hrest
    case inner_inj =>
      intro link hlink other hother heq
      rcases List.mem_cons.mp hlink with rfl | hrest <;> rcases List.mem_cons.mp hother with rfl | hrest'
      · rfl
      · exact absurd heq (hfirst other hrest').2.ne
      · exact absurd heq (hfirst link hrest).2.ne'
      · exact htail.inner_inj link hrest other hrest' heq
    case outer_inj =>
      intro link hlink other hother heq
      rcases List.mem_cons.mp hlink with rfl | hrest <;> rcases List.mem_cons.mp hother with rfl | hrest'
      · rfl
      · exact absurd heq (hfirst other hrest').1.ne
      · exact absurd heq (hfirst link hrest).1.ne'
      · exact htail.outer_inj link hrest other hrest' heq

section Holds

variable {link : Link τ V} {caches : ServiceCaches V} {header : ServiceHeader τ V} {storage other : StorageRef}

/-- A factory call for neither end of a link, or for storages it does not share, leaves the link as it is. -/
theorem Link.Holds.store (hholds : link.Holds caches other) (outcome : Except (ServiceException τ E) V)
    (houter : header.address = link.outer.address → ¬ link.outer.Shares storage other)
    (hinner : header.address = link.inner.address → ¬ link.inner.Shares storage other) :
    link.Holds (caches.store header storage outcome) other := by
  unfold Link.Holds
  rw [ServiceCaches.cached_store_other outcome fun _ => houter, ServiceCaches.cached_store_other outcome fun _ => hinner]
  exact hholds

theorem Link.Holds.clearStorage (hholds : link.Holds caches other)
    (hlifetime : link.outer.lifetime = link.inner.lifetime) : link.Holds (caches.clearStorage storage) other := by
  by_cases hcleared : link.outer.lifetime = .StoragePersistent ∧ storage = other
  · obtain ⟨hstorage, rfl⟩ := hcleared
    intro service hcached
    simp only [ServiceCaches.cached, hstorage, ServiceCaches.clearStorage, Function.update_self,
      ServiceStorage.get_clear] at hcached
    cases hcached
  · unfold Link.Holds
    rw [ServiceCaches.cached_clearStorage fun hstorage heq => hcleared ⟨hstorage, heq⟩,
      ServiceCaches.cached_clearStorage fun hstorage heq => hcleared ⟨hlifetime.trans hstorage, heq⟩]
    exact hholds

/-- All links hold. -/
def LinksHold (chain : List (Link τ V)) (state : ContainerState τ V W E) : Prop :=
  ∀ link ∈ chain, ∀ storage, link.Holds state.toServiceCaches storage

/-- All links hold, except for the one around a header, where it shares what is kept for a storage: the inside of that
    one has just been made anew. -/
def LinksHoldExcept (chain : List (Link τ V)) (header : ServiceHeader τ V) (storage : StorageRef)
    (state : ContainerState τ V W E) : Prop :=
  ∀ link ∈ chain, ∀ other, (link.inner.address = header.address → ¬ link.inner.Shares storage other) →
    link.Holds state.toServiceCaches other

theorem LinksHold.except {chain : List (Link τ V)} {state : ContainerState τ V W E} (hlinks : LinksHold chain state)
    (header : ServiceHeader τ V) (storage : StorageRef) : LinksHoldExcept chain header storage state :=
  fun link hlink other _ => hlinks link hlink other

end Holds

section Chain

variable {chain : List (Link τ V)} {header : ServiceHeader τ V} {storage : StorageRef}

/-- What getting an instance from a descriptor of the chain does to the links. -/
def KeepsLinks (chain : List (Link τ V)) (header : ServiceHeader τ V) (storage : StorageRef)
    (action : ServiceAction τ V W E V) : Prop :=
  ∀ ⦃state outcome after⦄, exec action state = some (outcome, after) → LinksHold chain state →
    (∀ exception, outcome = .error exception → LinksHold chain after) ∧
    ∀ service, outcome = .ok service → LinksHoldExcept chain header storage after ∧
      (header.Kept → after.cached header storage = some service)

/-- The step that the links take in any other code. -/
def LinksMove (chain : List (Link τ V)) (before after : ContainerState τ V W E) : Prop :=
  LinksHold chain before → LinksHold chain after

theorem serviceProperty_linksMove (hlinked : Linked chain) :
    ServiceProperty (Run.Moves (LinksMove (W := W) (E := E) chain)) :=
  serviceProperty_moves (fun _ => id) (fun hfirst hsecond hlinks => hsecond (hfirst hlinks)) (fun _ _ hlinks => hlinks)
    (fun _ _ hlinks link hlink other => (hlinks link hlink other).clearStorage (hlinked.lifetime link hlink))

/-- What a descriptor does to the links if a cache hit, or an exception of its own, leaves them alone. -/
theorem keepsLinks_of_run {factory : ServiceAction τ V W E V}
    (hrun : ∀ {state result mid}, exec factory state = some (result, mid) → LinksHold chain state →
      (∀ exception, result = .error exception → LinksHold chain mid) ∧
      ∀ service, result = .ok service → LinksHoldExcept chain header storage
        (mid.changeCaches (ServiceCaches.store (E := E) header storage (.ok service)))) :
    KeepsLinks chain header storage (header.getInstance factory storage) := by
  intro state outcome after hexec hlinks
  rcases ServiceHeader.getInstance_cases hexec with
    ⟨service, -, hcached, rfl, rfl⟩ | ⟨result, mid, -, hnone, hfactory, rfl, rfl⟩ | ⟨-, rfl, rfl⟩
  · refine ⟨nofun, fun _ hok => ?_⟩
    cases hok
    exact ⟨hlinks.except header storage, fun _ => hcached⟩
  · obtain ⟨hfailed, hcompleted⟩ := hrun hfactory hlinks
    rcases result with exception | service
    · refine ⟨fun _ _ => hfailed exception rfl, fun _ hok => ?_⟩
      cases ServiceHeader.surfaced_ok hok
    · refine ⟨nofun, fun _ hok => ?_⟩
      cases hok
      exact ⟨hcompleted service rfl,
        fun hkept => ServiceCaches.cached_store_self (E := E) hkept (ServiceCaches.instance_eq_none hnone)⟩
  · exact ⟨fun _ _ => hlinks, nofun⟩

/-- The descriptor inside the chain breaks at most the link around it. -/
theorem keepsLinks_base {factory : ServiceAction τ V W E V} (hfactory : Run.Moves (LinksMove chain) factory)
    (houter : ∀ link ∈ chain, link.outer.address ≠ header.address) :
    KeepsLinks chain header storage (header.getInstance factory storage) := by
  apply keepsLinks_of_run
  intro state result mid hexec hlinks
  have hmid := hfactory hexec hlinks
  refine ⟨fun _ _ => hmid, fun service _ link hlink other hexcept => ?_⟩
  exact (hmid link hlink other).store _ (fun heq => absurd heq.symm (houter link hlink)) fun heq => hexcept heq.symm

/-- Code that computes leaves everything kept as it is. -/
theorem exec_computes (data : ContainerData τ V W E)
    (resolve : ServiceDescriptor τ V W E → StorageRef → ServiceAction τ V W E V) {program : ServiceProgram τ V W E}
    {result : V} (hcomputes : program.Computes result) (state : ContainerState τ V W E) :
    ∃ after, exec (program.run data resolve) state = some (.ok result, after) ∧
      after.toServiceCaches = state.toServiceCaches := by
  induction program generalizing state with
  | returns service =>
    obtain rfl : service = result := hcomputes
    exact ⟨state, rfl, rfl⟩
  | effect update next ih =>
    obtain ⟨after, hexec, hcaches⟩ := ih (update state.world) (hcomputes _) (state.changeWorld update)
    exact ⟨after, hexec, hcaches⟩
  | throws exception => exact hcomputes.elim
  | get type storage next => exact hcomputes.elim
  | getMany type collection storage next => exact hcomputes.elim
  | clear storage next => exact hcomputes.elim

theorem ServiceHeader.shares_of_lifetime {first second : ServiceHeader τ V} (hlifetime : first.lifetime = second.lifetime)
    {other : StorageRef} : first.Shares storage other ↔ second.Shares storage other := by
  unfold ServiceHeader.Shares
  rw [hlifetime]

variable {data : ContainerData τ V W E} {resolve : ServiceDescriptor τ V W E → StorageRef → ServiceAction τ V W E V}

/-- A wrapper mends the link around the descriptor it wraps, and breaks at most the next one. -/
theorem keepsLinks_wrap (hlinked : Linked chain) {outer inner : ServiceHeader τ V} {function : PatchFunction τ V W E}
    (hlink : ⟨outer, inner, function.apply⟩ ∈ chain) {action : ServiceAction τ V W E V}
    (haction : KeepsLinks chain inner storage action) :
    KeepsLinks chain outer storage
      (outer.getInstance (callPatched data resolve action (some function.code) storage) storage) := by
  have hlifetime : outer.lifetime = inner.lifetime := hlinked.lifetime _ hlink
  have hnewer : inner.address < outer.address := hlinked.newer _ hlink
  apply keepsLinks_of_run
  intro state result mid hexec hlinks
  rcases Run.exec_bind_eq_some.mp hexec with ⟨exception, hfailed, rfl⟩ | ⟨original, made, hmade, hcode⟩
  · exact ⟨fun _ _ => (haction hfailed hlinks).1 exception rfl, nofun⟩
  · obtain ⟨hexcept, hkept⟩ := (haction hmade hlinks).2 original rfl
    obtain ⟨after, hcomputed, hcaches⟩ := exec_computes data resolve (function.computes storage original) made
    cases hcode.symm.trans hcomputed
    refine ⟨nofun, fun service hok => ?_⟩
    cases hok
    intro link hmem other hinner
    show link.Holds (ServiceCaches.store (E := E) outer storage (.ok (function.apply original)) mid.toServiceCaches) other
    rw [hcaches]
    by_cases hsame : link.inner.address = inner.address
    · obtain rfl := hlinked.inner_inj link hmem _ hlink hsame
      by_cases hshares : inner.Shares storage other
      · -- what both keep has just been made: the inside first, then the outside from it
        intro service hcached
        have houter_kept := ServiceCaches.kept_of_cached hcached
        have hinner_kept : inner.Kept := by
          unfold ServiceHeader.Kept at houter_kept ⊢
          rwa [← hlifetime]
        have houter_shares := (ServiceHeader.shares_of_lifetime hlifetime).mpr hshares
        rw [← ServiceCaches.cached_of_shares houter_shares,
          ServiceCaches.cached_store_self houter_kept fun _ => hlinked.unregistered _ hlink] at hcached
        cases hcached
        refine ⟨original, ?_, rfl⟩
        rw [ServiceCaches.cached_store_other _ fun _ heq => absurd heq hnewer.ne',
          ← ServiceCaches.cached_of_shares hshares]
        exact hkept hinner_kept
      · refine (hexcept _ hmem other fun _ => hshares).store _ (fun _ => ?_) fun heq => absurd heq hnewer.ne'
        exact fun houter => hshares ((ServiceHeader.shares_of_lifetime hlifetime).mp houter)
    · refine (hexcept link hmem other fun heq => absurd heq hsame).store _ (fun heq => ?_) fun heq => hinner heq.symm
      have hlink_eq := hlinked.outer_inj _ hlink link hmem heq
      rw [← hlink_eq] at hsame
      exact absurd rfl hsame

theorem keepsLinks_wrapAll (hlinked : Linked chain) {descriptor : ServiceDescriptor τ V W E} {next : Nat}
    {functions : List (PatchFunction τ V W E)}
    (hchain : ∀ link ∈ links descriptor.header next functions, link ∈ chain)
    (hbase : KeepsLinks chain descriptor.header storage (descriptor.getInstance data resolve storage)) :
    KeepsLinks chain (descriptor.wrapAll next functions).header storage
      ((descriptor.wrapAll next functions).getInstance data resolve storage) := by
  induction functions generalizing descriptor next with
  | nil => exact hbase
  | cons function rest ih =>
    exact @ih (descriptor.wrap next function) (next + 1)
      (fun link hlink => hchain link (.tail _ hlink)) (keepsLinks_wrap hlinked (hchain _ (.head _)) hbase)

/-- The last wrapper leaves all links whole. -/
theorem linksMove_of_keepsLinks {action : ServiceAction τ V W E V} (haction : KeepsLinks chain header storage action)
    (hlast : ∀ link ∈ chain, link.inner.address ≠ header.address) : Run.Moves (LinksMove chain) action := by
  intro state after outcome hexec hlinks
  obtain ⟨hfailed, hmade⟩ := haction hexec hlinks
  cases outcome with
  | error exception => exact hfailed exception rfl
  | ok service =>
    exact fun link hlink other => (hmade service rfl).1 link hlink other fun heq => absurd heq (hlast link hlink)

/-- A descriptor outside of the chain leaves the links alone. -/
theorem ServiceHeader.linksMove_getInstance
    (hforeign : ∀ link ∈ chain, header.address ≠ link.outer.address ∧ header.address ≠ link.inner.address)
    {factory : ServiceAction τ V W E V} (hfactory : Run.Moves (LinksMove chain) factory) :
    Run.Moves (LinksMove chain) (header.getInstance factory storage) := by
  intro state after outcome hexec hlinks
  rcases ServiceHeader.getInstance_cases hexec with
    ⟨_, -, -, -, rfl⟩ | ⟨result, mid, -, -, hrun, -, rfl⟩ | ⟨-, -, rfl⟩
  · exact hlinks
  · intro link hlink other
    obtain ⟨houter, hinner⟩ := hforeign link hlink
    exact (hfactory hrun hlinks link hlink other).store result (fun heq => absurd heq houter) fun heq => absurd heq hinner
  · exact hlinks

theorem ServiceDescriptor.linksMove_getInstance (hlinked : Linked chain) {descriptor : ServiceDescriptor τ V W E}
    (hforeign : ∀ header ∈ descriptor.headers, ∀ link ∈ chain,
      header.address ≠ link.outer.address ∧ header.address ≠ link.inner.address)
    (hresolve : ∀ list, ∀ other ∈ data.lists list, ∀ storage, Run.Moves (LinksMove chain) (resolve other storage)) :
    Run.Moves (LinksMove chain) (descriptor.getInstance data resolve storage) := by
  induction descriptor with
  | registered header factory =>
    exact ServiceHeader.linksMove_getInstance (hforeign header (.head _))
      ((serviceProperty_linksMove hlinked).factoryInvoke (fun list _ => hresolve list) _ _)
  | patched header original func ih =>
    apply ServiceHeader.linksMove_getInstance (hforeign header (.head _))
    exact (serviceProperty_linksMove hlinked).callPatched (ih fun inner hinner => hforeign inner (.tail _ hinner))
      (fun list _ => hresolve list) storage

end Chain

section WrapAll

variable {descriptor : ServiceDescriptor τ V W E} {next : Nat} {functions : List (PatchFunction τ V W E)}

theorem ServiceDescriptor.headers_wrapAll {header : ServiceHeader τ V} (hheader : header ∈ descriptor.headers) :
    header ∈ (descriptor.wrapAll next functions).headers := by
  induction functions generalizing descriptor next with
  | nil => exact hheader
  | cons function rest ih => exact @ih (descriptor.wrap next function) (next + 1) (.tail _ hheader)

/-- Both ends of a link belong to the wrapped descriptor. -/
theorem ServiceDescriptor.headers_of_links {link : Link τ V} (hlink : link ∈ links descriptor.header next functions) :
    link.outer ∈ (descriptor.wrapAll next functions).headers ∧
      link.inner ∈ (descriptor.wrapAll next functions).headers := by
  induction functions generalizing descriptor next with
  | nil => cases hlink
  | cons function rest ih =>
    rcases List.mem_cons.mp hlink with rfl | hrest
    · have houter : descriptor.header.wrapped next ∈ (descriptor.wrap next function).headers := .head _
      have hinner : descriptor.header ∈ (descriptor.wrap next function).headers := .tail _ descriptor.header_mem_headers
      exact ⟨@headers_wrapAll _ _ _ _ (descriptor.wrap next function) _ rest _ houter,
        @headers_wrapAll _ _ _ _ (descriptor.wrap next function) _ rest _ hinner⟩
    · exact @ih (descriptor.wrap next function) (next + 1) hrest

theorem ServiceDescriptor.Layered.of_wrapAll (hlayered : (descriptor.wrapAll next functions).Layered) :
    descriptor.Layered := by
  induction functions generalizing descriptor next with
  | nil => exact hlayered
  | cons function rest ih => exact (ih hlayered).2

/-- The wrapper created last is the newest. -/
theorem ServiceDescriptor.address_wrapAll (hnext : descriptor.header.address < next) :
    descriptor.header.address ≤ (descriptor.wrapAll next functions).header.address := by
  induction functions generalizing descriptor next with
  | nil => exact Nat.le_refl _
  | cons function rest ih =>
    have hrest := @ih (descriptor.wrap next function) (next + 1)
      (Nat.lt_succ_self next)
    exact Nat.le_trans hnext.le hrest

/-- Nothing wraps the wrapper created last. -/
theorem ServiceDescriptor.inner_lt_wrapAll (hnext : descriptor.header.address < next) {link : Link τ V}
    (hlink : link ∈ links descriptor.header next functions) :
    link.inner.address < (descriptor.wrapAll next functions).header.address := by
  induction functions generalizing descriptor next with
  | nil => cases hlink
  | cons function rest ih =>
    rcases List.mem_cons.mp hlink with rfl | hrest
    · have hlast := @address_wrapAll _ _ _ _ (descriptor.wrap next function) (next + 1) rest (Nat.lt_succ_self next)
      exact Nat.lt_of_lt_of_le hnext hlast
    · exact @ih (descriptor.wrap next function) (next + 1)
        (Nat.lt_succ_self next) hrest

variable {data : ContainerData τ V W E} {list : Nat}

/-- The descriptor at the bottom of a chain breaks at most the link around it. -/
theorem ServiceDescriptor.keepsLinks_getInstance (hnext : descriptor.header.address < next)
    (hlayered : descriptor.Layered)
    {resolve : ServiceDescriptor τ V W E → StorageRef → ServiceAction τ V W E V}
    (hresolve : ∀ list, ∀ other ∈ data.lists list, ∀ storage,
      Run.Moves (LinksMove (links descriptor.header next functions)) (resolve other storage)) (storage : StorageRef) :
    KeepsLinks (links descriptor.header next functions) descriptor.header storage
      (descriptor.getInstance data resolve storage) := by
  have hlinked := linked_links hnext functions
  have houter : ∀ link ∈ links descriptor.header next functions, link.outer.address ≠ descriptor.header.address :=
    fun link hlink => (Nat.lt_of_lt_of_le hnext (links_address hlink).1).ne'
  cases descriptor with
  | registered header factory =>
    exact keepsLinks_base ((serviceProperty_linksMove hlinked).factoryInvoke (fun list _ => hresolve list) _ _) houter
  | patched header original func =>
    have hforeign : ∀ inner ∈ original.headers, ∀ link ∈ links header next functions,
        inner.address ≠ link.outer.address ∧ inner.address ≠ link.inner.address := by
      intro inner hinner link hlink
      have hlt : inner.address < header.address := hlayered.1 inner hinner
      have hheader : header.address < next := hnext
      obtain ⟨hle, hwrapped⟩ := links_address hlink
      omega
    have horiginal : Run.Moves (LinksMove (links header next functions)) (original.getInstance data resolve storage) :=
      ServiceDescriptor.linksMove_getInstance hlinked hforeign hresolve
    exact keepsLinks_base ((serviceProperty_linksMove hlinked).callPatched horiginal (fun list _ => hresolve list) _)
      houter

/-- Whatever is resolved in a container, the links of its patched services hold afterwards if they held before. -/
theorem ContainerData.WellFormed.linksMove (hdata : data.WellFormed)
    (hlist : data.lists list = [descriptor.wrapAll next functions]) (hnext : descriptor.header.address < next)
    (fuel : Nat) : ∀ other, ∀ found ∈ data.lists other, ∀ storage,
      Run.Moves (LinksMove (links descriptor.header next functions)) (data.getInstance fuel found storage) := by
  have hlinked := linked_links hnext functions
  have hmem : descriptor.wrapAll next functions ∈ data.lists list := by
    rw [hlist]
    exact .head _
  induction fuel with
  | zero => exact fun _ _ _ _ => Run.moves_diverge
  | succ fuel ih =>
    intro other found hfound storage
    by_cases hsame : other = list
    · obtain rfl := hsame
      rw [hlist, List.mem_singleton] at hfound
      subst hfound
      have hbase := ServiceDescriptor.keepsLinks_getInstance hnext (hdata.layered hmem).of_wrapAll ih storage
      exact linksMove_of_keepsLinks (keepsLinks_wrapAll hlinked (fun _ hlink => hlink) hbase)
        fun link hlink => (ServiceDescriptor.inner_lt_wrapAll hnext hlink).ne
    · apply ServiceDescriptor.linksMove_getInstance hlinked _ ih
      intro header hheader link hlink
      obtain ⟨i, hi⟩ := List.getElem?_of_mem hfound
      obtain ⟨j, hj⟩ := List.getElem?_of_mem hmem
      obtain ⟨houter, hinner⟩ := ServiceDescriptor.headers_of_links hlink
      exact ⟨fun heq => hsame (hdata.unique hi hj hheader houter heq).1,
        fun heq => hsame (hdata.unique hi hj hheader hinner heq).1⟩

variable {resolve : ServiceDescriptor τ V W E → StorageRef → ServiceAction τ V W E V} {storage : StorageRef}

/-- Where a descriptor yields a service, its wrapper yields what the function makes of it. -/
theorem exec_wrapped {function : PatchFunction τ V W E} {state mid : ContainerState τ V W E} {service : V}
    (hholds : Link.Holds ⟨descriptor.header.wrapped next, descriptor.header, function.apply⟩ state.toServiceCaches
      storage)
    (hexec : exec (descriptor.getInstance data resolve storage) state = some (.ok service, mid)) :
    ∃ after, exec ((descriptor.wrap next function).getInstance data resolve storage) state =
      some (.ok (function.apply service), after) := by
  obtain ⟨factory, hfactory⟩ := descriptor.getInstance_eq data resolve storage
  have husable : descriptor.header.Usable = true := by
    rw [hfactory] at hexec
    rcases ServiceHeader.getInstance_cases hexec with ⟨_, husable, -⟩ | ⟨_, _, husable, -⟩ | ⟨-, hmisuse, -⟩
    · exact husable
    · exact husable
    · cases hmisuse
  have husable_outer : (descriptor.header.wrapped next).Usable = true := husable
  rw [ServiceDescriptor.wrap, ServiceDescriptor.getInstance, ServiceHeader.exec_getInstance, if_pos husable_outer]
  cases hcached : state.cached (descriptor.header.wrapped next) storage with
  | some kept =>
    -- a hit: what is inside is kept too, and it is what the descriptor yields
    obtain ⟨original, horiginal, rfl⟩ := hholds kept hcached
    rw [hfactory, ServiceHeader.exec_getInstance, if_pos husable, horiginal] at hexec
    cases hexec
    exact ⟨_, rfl⟩
  | none =>
    obtain ⟨after, hcomputed, -⟩ := exec_computes data resolve (function.computes storage service) mid
    have hcall : exec (callPatched data resolve (descriptor.getInstance data resolve storage) (some function.code) storage)
        state = some (.ok (function.apply service), after) := (Run.exec_bind_ok hexec).trans hcomputed
    rw [hcall]
    exact ⟨_, rfl⟩

theorem exec_wrapAll {state mid : ContainerState τ V W E} {service : V}
    (hlinks : LinksHold (links descriptor.header next functions) state)
    (hexec : exec (descriptor.getInstance data resolve storage) state = some (.ok service, mid)) :
    ∃ after, exec ((descriptor.wrapAll next functions).getInstance data resolve storage) state =
      some (.ok (applyAll functions service), after) := by
  induction functions generalizing descriptor next mid service with
  | nil => exact ⟨mid, hexec⟩
  | cons function rest ih =>
    obtain ⟨after, hwrapped⟩ := exec_wrapped (hlinks _ (.head _) storage) hexec
    exact @ih (descriptor.wrap next function) (next + 1) _ _
      (fun link hlink => hlinks link (.tail _ hlink)) hwrapped

end WrapAll

end cpv
