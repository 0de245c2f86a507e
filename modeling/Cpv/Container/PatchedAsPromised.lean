import Cpv.Container.Patched

namespace cpv

open Run (exec)

variable {τ V W E : Type}

namespace Container

variable {container : Container τ V W E} {type : τ} {functions : List (PatchFunction τ V W E)}

theorem exists_list_of_registered {descriptor : ServiceDescriptor τ V W E} {rest : List (ServiceDescriptor τ V W E)}
    (hregistered : container.registered type = descriptor :: rest) :
    ∃ list, container.descriptorsMap type = some list ∧ container.lists list = descriptor :: rest := by
  cases hlist : container.descriptorsMap type with
  | none =>
    rw [ContainerData.registered, ContainerData.getDescriptors, hlist] at hregistered
    cases hregistered
  | some list => exact ⟨list, rfl, (ContainerData.registered_eq hlist).symm.trans hregistered⟩

/-- A single service is wrapped by every function. -/
theorem patchAll_single {descriptor : ServiceDescriptor τ V W E}
    (hsingle : container.registered type = [descriptor]) :
    (container.patchAll type functions).2.registered type =
      [descriptor.wrapAll container.nextDescriptor functions] := by
  induction functions generalizing container descriptor with
  | nil => exact hsingle
  | cons function rest ih =>
    have hpatched : (container.patch type function.code).2.registered type =
        [descriptor.wrap container.nextDescriptor function] := by
      rw [patch_registered, hsingle]
      rfl
    have hnext : (container.patch type function.code).2.nextDescriptor = container.nextDescriptor + 1 := by
      refine (container.toContainerData.patch_nextDescriptor type function.code).trans ?_
      rw [hsingle]
      rfl
    refine (ih hpatched).trans ?_
    rw [hnext]
    rfl

/-- The list of a type that has one service at most is as long after the patches. -/
theorem patchAll_length : ((container.patchAll type functions).2.registered type).length =
    (container.registered type).length := by
  have hlifetimes := congrArg List.length (@patchAll_lifetimes _ _ _ _ container type functions)
  rwa [List.length_map, List.length_map] at hlifetimes

end Container

theorem applyAll_nil : applyAll ([] : List (PatchFunction τ V W E)) = id := rfl

/-- Where nothing is kept at an address, nothing is kept for a wrapper created there. -/
theorem ServiceCaches.cached_eq_none {caches : ServiceCaches V} {header : ServiceHeader τ V} {storage : StorageRef}
    (hinstance : header.instance_ = none) (hpersistent : caches.instances header.address = none)
    (hstored : ∀ storage, (caches.storages storage).get header.address = none) :
    caches.cached header storage = none := by
  unfold cached
  cases header.lifetime with
  | Transient => rfl
  | Persistent => simp only [instanceOf, hinstance, hpersistent, Option.or_none]
  | StoragePersistent => exact hstored storage
  | other value => rfl

namespace Container

variable {container : Container τ V W E} {type : τ} {functions : List (PatchFunction τ V W E)} {fuel : Nat}
  {storage : StorageRef} {state mid after : ContainerState τ V W E} {services : List V}

/-- In a container with one service of the type, what the wrappers keep always comes from what they wrap. -/
theorem linksHold_of_afterwards {descriptor : ServiceDescriptor τ V W E}
    (hsingle : container.registered type = [descriptor]) (hafterwards : Afterwards container type functions state) :
    LinksHold (links descriptor.header container.nextDescriptor functions) state := by
  obtain ⟨start, fuel, calls, outcome, hunused, hcalls⟩ := hafterwards
  obtain ⟨list, -, hlist⟩ := exists_list_of_registered hsingle
  have hmem : descriptor ∈ container.lists list := by
    rw [hlist]
    exact .head _
  have hnext : descriptor.header.address < container.nextDescriptor :=
    container.wellFormed.address_lt hmem descriptor.header_mem_headers
  have hlinked := linked_links hnext functions
  have hstart : LinksHold (links descriptor.header container.nextDescriptor functions) start := by
    intro link hlink storage service hcached
    obtain ⟨hpersistent, hstored⟩ := hunused link.outer.address (links_address hlink).1
    rw [ServiceCaches.cached_eq_none (hlinked.unregistered link hlink) hpersistent hstored] at hcached
    cases hcached
  obtain ⟨list', -, hpatched⟩ := exists_list_of_registered
    (@patchAll_single _ _ _ _ container type functions descriptor hsingle)
  have hmoves := (container.patchAll type functions).2.wellFormed.linksMove hpatched hnext fuel
  exact (serviceProperty_linksMove hlinked).calls hmoves calls hcalls hstart

/-- Where the original service can be had, the wrappers yield it with all functions applied. -/
theorem yields_single {descriptor : ServiceDescriptor τ V W E} (hsingle : container.registered type = [descriptor])
    (hafterwards : Afterwards container type functions state)
    (horiginals : OriginalsYield container type functions fuel storage state services mid) :
    ∃ after, Yields ((container.patchAll type functions).2.getInstance fuel) storage
      ((container.patchAll type functions).2.registered type) state (services.map (applyAll functions)) after := by
  unfold OriginalsYield at horiginals
  rw [hsingle] at horiginals
  rw [patchAll_single hsingle]
  cases horiginals with
  | cons hfirst hrest =>
    cases hrest
    cases fuel with
    | zero => cases hfirst
    | succ fuel =>
      obtain ⟨after, hwrapped⟩ := exec_wrapAll (linksHold_of_afterwards hsingle hafterwards) hfirst
      exact ⟨after, .cons hwrapped (.nil after)⟩

theorem yields_patched (hfew : (container.registered type).length ≤ 1 ∨ functions = [])
    (hafterwards : Afterwards container type functions state)
    (horiginals : OriginalsYield container type functions fuel storage state services mid) :
    ∃ after, Yields ((container.patchAll type functions).2.getInstance fuel) storage
      ((container.patchAll type functions).2.registered type) state (services.map (applyAll functions)) after := by
  rcases hfew with hone | rfl
  · match hregistered : container.registered type with
    | [] =>
      have hpatched : (container.patchAll type functions).2.registered type = [] := by
        rw [← List.length_eq_zero_iff, patchAll_length, hregistered]
        rfl
      unfold OriginalsYield at horiginals
      rw [hregistered] at horiginals
      cases horiginals
      rw [hpatched]
      exact ⟨state, .nil state⟩
    | [descriptor] => exact yields_single hregistered hafterwards horiginals
    | _ :: _ :: _ =>
      rw [hregistered] at hone
      exact absurd hone (by simp only [List.length_cons]; omega)
  · rw [applyAll_nil, List.map_id]
    exact ⟨mid, horiginals⟩

/-- `getMany` comes to its end only if all descriptors of the type yield a service. -/
theorem yields_of_getMany {data : ContainerData τ V W E} {collection collection' : ServiceCollection V} {count : Nat}
    (hexec : exec (data.call fuel (.getMany type collection storage)) state =
      some (.ok (.gotMany (.ok count) collection'), after)) :
    ∃ services, Yields (data.getInstance fuel) storage (data.registered type) state services after := by
  rw [ContainerData.call, getManyFrom_eq, getManyFrom, bind_assoc] at hexec
  rcases Run.exec_bind_eq_some.mp hexec with ⟨exception, -, herror⟩ | ⟨⟨outcome, result⟩, mid, hloop, hrest⟩
  · cases herror
  · cases outcome with
    | error exception => cases hrest
    | ok _ =>
      cases hrest
      obtain ⟨services, hyields, -⟩ := addEach_ok_iff.mp hloop
      exact ⟨services, hyields⟩

/-- With several services the wrapper of the second has no function, and nothing to hand out either. -/
theorem not_yields_several (hfunctions : functions ≠ []) (hseveral : 1 < (container.registered type).length)
    (hafterwards : Afterwards container type functions state) :
    ¬ Yields ((container.patchAll type functions).2.getInstance fuel) storage
      ((container.patchAll type functions).2.registered type) state services after := by
  intro hyields
  obtain ⟨start, fuel', calls, outcome, hunused, hcalls⟩ := hafterwards
  obtain ⟨header, original, hsecond, hinstance, haddress⟩ := @patchAll_second _ _ _ _ container type _ hfunctions hseveral
  match hregistered : (container.patchAll type functions).2.registered type with
  | [] | [_] =>
    rw [hregistered] at hsecond
    cases hsecond
  | first :: second :: rest =>
    rw [hregistered] at hsecond hyields
    cases hsecond
    obtain ⟨list, -, hlist⟩ := exists_list_of_registered hregistered
    have hmem : .patched header original none ∈ (container.patchAll type functions).2.lists list := by
      rw [hlist]
      exact .tail _ (.head _)
    have hfirst_mem : first ∈ (container.patchAll type functions).2.lists list := by
      rw [hlist]
      exact .head _
    have hkeeps := (container.patchAll type functions).2.wellFormed.keepsEmpty_noFunction hmem
    cases hyields with
    | cons hfirst hrest =>
      cases hrest with
      | cons hwrapper hrest =>
        -- nothing is kept for the wrapper when its turn comes
        obtain ⟨hpersistent, hstored⟩ := hunused header.address haddress
        have hstart := @ServiceCaches.cached_eq_none _ _ start.toServiceCaches header storage hinstance hpersistent hstored
        have hcalled := (serviceProperty_keepsEmpty header.address).calls (hkeeps fuel') calls hcalls
        have hgot := hkeeps fuel list first hfirst_mem storage hfirst
        exact getInstance_noFunction ((hcalled.trans hgot).cached_none hstart) hwrapper

/-- `patch` does what it promises exactly for types with one service at most, for no patches, and where the original
    services cannot be had anyway. -/
theorem patchedAsPromised_iff (container : Container τ V W E) (type : τ) (functions : List (PatchFunction τ V W E)) :
    PatchedAsPromised container type functions ↔
      (container.registered type).length ≤ 1 ∨ functions = [] ∨ NeverAll container type functions := by
  constructor
  · intro hpromised
    by_contra hnot
    obtain ⟨hseveral, hfunctions, hsome⟩ : 1 < (container.registered type).length ∧ functions ≠ [] ∧
        ¬ NeverAll container type functions := by
      push Not at hnot
      exact hnot
    apply hsome
    intro fuel storage state services mid hafterwards horiginals
    obtain ⟨after, hgetMany⟩ := hpromised.getMany hafterwards horiginals []
    obtain ⟨yielded, hyields⟩ := yields_of_getMany hgetMany
    exact not_yields_several hfunctions hseveral hafterwards hyields
  · intro hcases
    have hyields : ∀ {fuel storage state services mid}, Afterwards container type functions state →
        OriginalsYield container type functions fuel storage state services mid → ∃ after,
          Yields ((container.patchAll type functions).2.getInstance fuel) storage
            ((container.patchAll type functions).2.registered type) state (services.map (applyAll functions)) after := by
      intro fuel storage state services mid hafterwards horiginals
      rcases hcases with hone | hnone | hnever
      · exact yields_patched (.inl hone) hafterwards horiginals
      · exact yields_patched (.inr hnone) hafterwards horiginals
      · exact absurd horiginals (hnever fuel storage state services mid hafterwards)
    constructor
    case returns => exact patchAll_returns functions
    case lifetimes => exact patchAll_lifetimes functions
    case getMany =>
      intro fuel storage state services mid hafterwards horiginals items
      obtain ⟨after, hyields⟩ := hyields hafterwards horiginals
      have hgetMany := hyields.getMany (.vector items)
      rw [foldl_add_vector, List.length_map] at hgetMany
      refine ⟨after, ?_⟩
      rw [ContainerData.call, getManyFrom_eq]
      exact Run.exec_bind_ok hgetMany
    case injected =>
      intro fuel storage state services mid hafterwards horiginals list descriptor dependency argument hmem hdependency
        htype hargument
      obtain ⟨after, hyields⟩ := hyields hafterwards horiginals
      have hcaptured := (container.patchAll type functions).2.wellFormed.captured hmem hdependency
      rw [htype] at hcaptured
      rw [ContainerData.registered_eq hcaptured] at hyields
      exact ⟨after, hyields.getDependencyInstance hargument⟩

/-- Two services of one type, registered with instance. -/
def twoValues : Container Nat Nat Unit Unit :=
  (empty.add ⟨0, true, .value 1⟩).add ⟨0, true, .value 2⟩

/-- The function object that adds ten. -/
def addTen : PatchFunction Nat Nat Unit Unit := ⟨fun _ service => .returns (service + 10), (· + 10), fun _ _ => rfl⟩

theorem not_patchedAsPromised_twoValues : ¬ PatchedAsPromised twoValues 0 [addTen] := by
  intro hpromised
  have hafterwards : Afterwards twoValues 0 [addTen] (ContainerState.fresh ()) :=
    ⟨ContainerState.fresh (), 1, [], .ok [], fun _ _ => ⟨rfl, fun _ => rfl⟩, rfl⟩
  have horiginals : ∃ mid, OriginalsYield twoValues 0 [addTen] 1 .builtin (ContainerState.fresh ()) [1, 2] mid :=
    ⟨_, .cons rfl (.cons rfl (.nil _))⟩
  obtain ⟨mid, horiginals⟩ := horiginals
  obtain ⟨after, hgetMany⟩ := hpromised.getMany hafterwards horiginals []
  obtain ⟨services, hyields⟩ := yields_of_getMany hgetMany
  cases hyields with
  | cons hfirst hrest =>
    cases hfirst
    cases hrest with
    | cons hwrapper hrest => cases hwrapper

end Container

end cpv
