import Cpv.Container.Model
import Mathlib.Order.Basic
import Mathlib.Order.Nat

namespace cpv

variable {τ V W E : Type}

namespace ServiceDescriptor

/-- The headers of a descriptor and of the originals it owns, outermost first. -/
def headers : ServiceDescriptor τ V W E → List (ServiceHeader τ V)
  | registered header _ => [header]
  | patched header original _ => header :: original.headers

/-- The dependencies whose descriptors the factory at the bottom captured. -/
def dependencies : ServiceDescriptor τ V W E → List (ServiceDependency τ)
  | registered _ (.injection dependencies _) => dependencies
  | registered _ _ => []
  | patched _ original _ => original.dependencies

/-- Every wrapper was created after what it wraps. -/
def Layered : ServiceDescriptor τ V W E → Prop
  | registered _ _ => True
  | patched header original _ => (∀ inner ∈ original.headers, inner.address < header.address) ∧ original.Layered

theorem header_mem_headers (descriptor : ServiceDescriptor τ V W E) : descriptor.header ∈ descriptor.headers := by
  cases descriptor <;> exact List.mem_cons_self

/-- Within one descriptor an address names one header. -/
theorem Layered.header_eq {descriptor : ServiceDescriptor τ V W E} (hlayered : descriptor.Layered)
    {header other : ServiceHeader τ V} (hheader : header ∈ descriptor.headers) (hother : other ∈ descriptor.headers)
    (haddress : header.address = other.address) : header = other := by
  induction descriptor with
  | registered top factory =>
    rw [List.mem_singleton.mp hheader, List.mem_singleton.mp hother]
  | patched top original func ih =>
    obtain ⟨hnewer, hinner⟩ := hlayered
    rcases List.mem_cons.mp hheader with htop | hbelow <;> rcases List.mem_cons.mp hother with htop' | hbelow'
    · rw [htop, htop']
    · exact absurd (htop ▸ haddress) (Nat.ne_of_gt (hnewer other hbelow'))
    · exact absurd (htop' ▸ haddress) (Nat.ne_of_lt (hnewer header hbelow))
    · exact ih hinner hbelow hbelow'

end ServiceDescriptor

namespace ContainerData

/-- What holds of the data of every container. No two types share a list, no two descriptors an address, a list holds
    descriptors of its type only, and the factories captured the very lists that the map holds. -/
structure WellFormed (data : ContainerData τ V W E) : Prop where
  list_lt : ∀ {type : τ} {list : Nat}, data.descriptorsMap type = some list → list < data.nextList
  list_inj : ∀ {type other : τ} {list : Nat}, data.descriptorsMap type = some list →
    data.descriptorsMap other = some list →
    type = other
  unallocated : ∀ {list : Nat}, data.nextList ≤ list → data.lists list = []
  captured : ∀ {list : Nat} {descriptor : ServiceDescriptor τ V W E} {dependency : ServiceDependency τ},
    descriptor ∈ data.lists list → dependency ∈ descriptor.dependencies →
    data.descriptorsMap dependency.type = some dependency.descriptors
  typed : ∀ {type : τ} {list : Nat} {descriptor : ServiceDescriptor τ V W E} {header : ServiceHeader τ V},
    data.descriptorsMap type = some list → descriptor ∈ data.lists list → header ∈ descriptor.headers →
    header.type = type
  address_lt : ∀ {list : Nat} {descriptor : ServiceDescriptor τ V W E} {header : ServiceHeader τ V},
    descriptor ∈ data.lists list → header ∈ descriptor.headers → header.address < data.nextDescriptor
  unique : ∀ {list other i j : Nat} {descriptor descriptor' : ServiceDescriptor τ V W E}
    {header header' : ServiceHeader τ V}, (data.lists list)[i]? = some descriptor →
    (data.lists other)[j]? = some descriptor' → header ∈ descriptor.headers → header' ∈ descriptor'.headers →
    header.address = header'.address → list = other ∧ i = j
  layered : ∀ {list : Nat} {descriptor : ServiceDescriptor τ V W E}, descriptor ∈ data.lists list →
    descriptor.Layered

theorem wellFormed_empty : (empty : ContainerData τ V W E).WellFormed where
  list_lt hmap := by cases hmap
  list_inj hmap := by cases hmap
  unallocated _ := rfl
  captured hmem := by cases hmem
  typed hmap := by cases hmap
  address_lt hmem := by cases hmem
  unique hget := by cases hget
  layered hmem := by cases hmem

/-- Whether a header belongs to the container, as a descriptor or as an original inside a patched one. -/
def HasHeader (data : ContainerData τ V W E) (header : ServiceHeader τ V) : Prop :=
  ∃ list, ∃ descriptor ∈ data.lists list, header ∈ descriptor.headers

/-- The pointer of a descriptor tells which one it is. -/
theorem WellFormed.header_eq {data : ContainerData τ V W E} (hdata : data.WellFormed)
    {header other : ServiceHeader τ V} (hheader : data.HasHeader header) (hother : data.HasHeader other)
    (haddress : header.address = other.address) : header = other := by
  obtain ⟨list, descriptor, hmem, hin⟩ := hheader
  obtain ⟨list', descriptor', hmem', hin'⟩ := hother
  obtain ⟨i, hi⟩ := List.getElem?_of_mem hmem
  obtain ⟨j, hj⟩ := List.getElem?_of_mem hmem'
  obtain ⟨rfl, rfl⟩ := hdata.unique hi hj hin hin' haddress
  obtain rfl : descriptor = descriptor' := Option.some.inj (hi.symm.trans hj)
  exact (hdata.layered hmem).header_eq hin hin' haddress

/-- The descriptors of a type, whether or not a list was allocated for it. -/
def registered (data : ContainerData τ V W E) (type : τ) : List (ServiceDescriptor τ V W E) :=
  (data.getDescriptors type).getD []

theorem registered_eq {data : ContainerData τ V W E} {type : τ} {list : Nat}
    (hlist : data.descriptorsMap type = some list) :
    data.registered type = data.lists list := by
  rw [registered, getDescriptors, hlist]
  rfl

/-- A place in the list of a type is told by the address of the descriptor there. -/
theorem WellFormed.place_eq {data : ContainerData τ V W E} (hdata : data.WellFormed) {type other : τ} {i j : Nat}
    {descriptor descriptor' : ServiceDescriptor τ V W E} (hget : (data.registered type)[i]? = some descriptor)
    (hget' : (data.registered other)[j]? = some descriptor')
    (haddress : descriptor.header.address = descriptor'.header.address) : type = other ∧ i = j := by
  cases hlist : data.descriptorsMap type with
  | none =>
    rw [registered, getDescriptors, hlist] at hget
    cases hget
  | some list =>
    cases hlist' : data.descriptorsMap other with
    | none =>
      rw [registered, getDescriptors, hlist'] at hget'
      cases hget'
    | some list' =>
      rw [registered_eq hlist] at hget
      rw [registered_eq hlist'] at hget'
      obtain ⟨rfl, hij⟩ := hdata.unique hget hget' descriptor.header_mem_headers descriptor'.header_mem_headers haddress
      exact ⟨hdata.list_inj hlist hlist', hij⟩

theorem WellFormed.captured_registered {data : ContainerData τ V W E} (hdata : data.WellFormed) {type : τ}
    {descriptor : ServiceDescriptor τ V W E} {dependency : ServiceDependency τ} (hmem : descriptor ∈ data.registered type)
    (hdependency : dependency ∈ descriptor.dependencies) :
    data.descriptorsMap dependency.type = some dependency.descriptors := by
  cases hlist : data.descriptorsMap type with
  | none =>
    rw [registered, getDescriptors, hlist] at hmem
    cases hmem
  | some list =>
    rw [registered_eq hlist] at hmem
    exact hdata.captured hmem hdependency

/-- What `getOrCreateEmptyDescriptors` leaves as it was, and what it returns. -/
structure Extends (before after : ContainerData τ V W E) : Prop where
  kept : ∀ {type list}, before.descriptorsMap type = some list → after.descriptorsMap type = some list
  lists : after.lists = before.lists
  nextDescriptor : after.nextDescriptor = before.nextDescriptor

theorem Extends.refl (data : ContainerData τ V W E) : Extends data data := ⟨id, rfl, rfl⟩

theorem Extends.trans {first second third : ContainerData τ V W E} (hfirst : Extends first second)
    (hsecond : Extends second third) : Extends first third :=
  ⟨fun hmap => hsecond.kept (hfirst.kept hmap), hsecond.lists.trans hfirst.lists,
    hsecond.nextDescriptor.trans hfirst.nextDescriptor⟩

section Register

variable {data : ContainerData τ V W E}

/-- What is found in the lists after a descriptor was appended to one of them. -/
theorem getElem?_append_list {lists : Nat → List (ServiceDescriptor τ V W E)} {list other i : Nat}
    {descriptor found : ServiceDescriptor τ V W E} :
    (Function.update lists list (lists list ++ [descriptor]) other)[i]? = some found ↔
      (lists other)[i]? = some found ∨ other = list ∧ i = (lists list).length ∧ found = descriptor := by
  by_cases hother : other = list
  · subst hother
    rw [Function.update_self]
    rcases Nat.lt_trichotomy i (lists other).length with hlt | heq | hgt
    · rw [List.getElem?_append_left hlt]
      exact ⟨.inl, fun h => h.resolve_right fun ⟨_, heq, _⟩ => absurd heq hlt.ne⟩
    · subst heq
      simp [eq_comm]
    · have hpast : (lists other ++ [descriptor]).length ≤ i := by
        rw [List.length_append]
        exact hgt
      rw [List.getElem?_eq_none hpast, List.getElem?_eq_none hgt.le]
      constructor
      · intro h
        cases h
      · rintro (h | ⟨-, heq, -⟩)
        · cases h
        · exact absurd heq hgt.ne'
  · rw [Function.update_of_ne hother]
    exact ⟨.inl, fun h => h.resolve_right fun ⟨heq, _⟩ => hother heq⟩

theorem mem_append_list {lists : Nat → List (ServiceDescriptor τ V W E)} {list other : Nat}
    {descriptor found : ServiceDescriptor τ V W E}
    (hmem : found ∈ Function.update lists list (lists list ++ [descriptor]) other) :
    found ∈ lists other ∨ other = list ∧ found = descriptor := by
  obtain ⟨i, hi⟩ := List.getElem?_of_mem hmem
  rcases getElem?_append_list.mp hi with hold | ⟨rfl, -, rfl⟩
  · exact .inl (List.mem_of_getElem? hold)
  · exact .inr ⟨rfl, rfl⟩

/-- A descriptor newer than all others is appended to the list of its type. -/
theorem WellFormed.append (hdata : data.WellFormed) {type : τ} {list : Nat} {header : ServiceHeader τ V}
    {factory : ServiceFactory τ V W E} (hlist : data.descriptorsMap type = some list) (htype : header.type = type)
    (haddress : header.address < data.nextDescriptor)
    (hnewest : ∀ {list descriptor inner}, descriptor ∈ data.lists list → inner ∈ descriptor.headers →
      inner.address < header.address)
    (hcaptured : ∀ dependency ∈ (ServiceDescriptor.registered header factory).dependencies,
      data.descriptorsMap dependency.type = some dependency.descriptors) :
    WellFormed { data with
      lists := Function.update data.lists list (data.lists list ++ [.registered header factory]) } := by
  constructor
  case list_lt => exact hdata.list_lt
  case list_inj => exact hdata.list_inj
  case unallocated =>
    intro other hle
    have hne : other ≠ list := by
      rintro rfl
      exact absurd (hdata.list_lt hlist) (Nat.not_lt.mpr hle)
    exact (Function.update_of_ne hne ..).trans (hdata.unallocated hle)
  case captured =>
    intro other descriptor dependency hmem hdependency
    rcases mem_append_list hmem with hold | ⟨-, rfl⟩
    · exact hdata.captured hold hdependency
    · exact hcaptured dependency hdependency
  case typed =>
    intro other list' descriptor inner hmap hmem hinner
    rcases mem_append_list hmem with hold | ⟨rfl, rfl⟩
    · exact hdata.typed hmap hold hinner
    · rw [List.mem_singleton.mp hinner, htype]
      exact hdata.list_inj hlist hmap
  case address_lt =>
    intro other descriptor inner hmem hinner
    rcases mem_append_list hmem with hold | ⟨-, rfl⟩
    · exact hdata.address_lt hold hinner
    · rw [List.mem_singleton.mp hinner]
      exact haddress
  case unique =>
    intro first second i j descriptor descriptor' inner inner' hfirst hsecond hin hin' heq
    rcases getElem?_append_list.mp hfirst with hold | ⟨hlist, hi, rfl⟩ <;>
      rcases getElem?_append_list.mp hsecond with hold' | ⟨hlist', hj, rfl⟩
    · exact hdata.unique hold hold' hin hin' heq
    · rw [List.mem_singleton.mp hin'] at heq
      exact absurd heq (hnewest (List.mem_of_getElem? hold) hin).ne
    · rw [List.mem_singleton.mp hin] at heq
      exact absurd heq (hnewest (List.mem_of_getElem? hold') hin').ne'
    · exact ⟨hlist.trans hlist'.symm, hi.trans hj.symm⟩
  case layered =>
    intro other descriptor hmem
    rcases mem_append_list hmem with hold | ⟨-, rfl⟩
    · exact hdata.layered hold
    · trivial

/-- The list that is allocated for a new type was empty before. -/
theorem WellFormed.update_nextList (hdata : data.WellFormed) :
    Function.update data.lists data.nextList [] = data.lists := by
  rw [← hdata.unallocated (Nat.le_refl data.nextList), Function.update_eq_self]

variable [DecidableEq τ]

theorem update_descriptorsMap_of_some {type other : τ} {list next : Nat} (hnone : data.descriptorsMap type = none)
    (hmap : data.descriptorsMap other = some list) :
    Function.update data.descriptorsMap type (some next) other = some list := by
  have hne : other ≠ type := by
    rintro rfl
    rw [hnone] at hmap
    cases hmap
  rwa [Function.update_of_ne hne]

theorem of_update_descriptorsMap {type other : τ} {list next : Nat}
    (hmap : Function.update data.descriptorsMap type (some next) other = some list) :
    (other = type ∧ list = next) ∨ data.descriptorsMap other = some list := by
  by_cases hother : other = type
  · rw [hother, Function.update_self] at hmap
    exact .inl ⟨hother, (Option.some.inj hmap).symm⟩
  · rw [Function.update_of_ne hother] at hmap
    exact .inr hmap

theorem getOrCreateEmptyDescriptors_extends (hdata : data.WellFormed) (type : τ) :
    Extends data (data.getOrCreateEmptyDescriptors type).2 := by
  unfold getOrCreateEmptyDescriptors
  split
  · exact Extends.refl data
  · rename_i hnone
    exact ⟨update_descriptorsMap_of_some hnone, hdata.update_nextList, rfl⟩

theorem getOrCreateEmptyDescriptors_pointer (data : ContainerData τ V W E) (type : τ) :
    (data.getOrCreateEmptyDescriptors type).2.descriptorsMap type =
      some (data.getOrCreateEmptyDescriptors type).1 := by
  unfold getOrCreateEmptyDescriptors
  split
  · assumption
  · exact Function.update_self ..

theorem WellFormed.getOrCreateEmptyDescriptors (hdata : data.WellFormed) (type : τ) :
    (data.getOrCreateEmptyDescriptors type).2.WellFormed := by
  unfold ContainerData.getOrCreateEmptyDescriptors
  split
  · exact hdata
  · rename_i hnone
    rw [hdata.update_nextList]
    constructor
    case list_lt =>
      intro other list hmap
      rcases of_update_descriptorsMap hmap with ⟨-, rfl⟩ | hold
      · exact Nat.lt_succ_self _
      · exact Nat.lt_succ_of_lt (hdata.list_lt hold)
    case list_inj =>
      intro first second list hfirst hsecond
      rcases of_update_descriptorsMap hfirst with ⟨htype, hnew⟩ | hold <;>
        rcases of_update_descriptorsMap hsecond with ⟨htype', hnew'⟩ | hold'
      · rw [htype, htype']
      · exact absurd (hnew ▸ hdata.list_lt hold') (Nat.lt_irrefl _)
      · exact absurd (hnew' ▸ hdata.list_lt hold) (Nat.lt_irrefl _)
      · exact hdata.list_inj hold hold'
    case unallocated => exact fun hle => hdata.unallocated (Nat.le_of_succ_le hle)
    case captured =>
      exact fun hmem hdependency => update_descriptorsMap_of_some hnone (hdata.captured hmem hdependency)
    case typed =>
      intro other list descriptor header hmap hmem hheader
      rcases of_update_descriptorsMap hmap with ⟨-, rfl⟩ | hold
      · rw [hdata.unallocated (Nat.le_refl _)] at hmem
        cases hmem
      · exact hdata.typed hold hmem hheader
    case address_lt => exact hdata.address_lt
    case unique => exact hdata.unique
    case layered => exact hdata.layered

theorem getDependencyDescriptors_spec (hdata : data.WellFormed) (dependencyTypes : List (τ × DependencyKind)) :
    (data.getDependencyDescriptors dependencyTypes).2.WellFormed ∧
    Extends data (data.getDependencyDescriptors dependencyTypes).2 ∧
    ∀ dependency ∈ (data.getDependencyDescriptors dependencyTypes).1,
      (data.getDependencyDescriptors dependencyTypes).2.descriptorsMap dependency.type =
        some dependency.descriptors := by
  induction dependencyTypes generalizing data with
  | nil => exact ⟨hdata, Extends.refl data, fun _ hmem => by cases hmem⟩
  | cons dependencyType rest ih =>
    obtain ⟨type, kind⟩ := dependencyType
    obtain ⟨hwell, hextends, hcaptured⟩ := ih (hdata.getOrCreateEmptyDescriptors type)
    refine ⟨hwell, (getOrCreateEmptyDescriptors_extends hdata type).trans hextends, ?_⟩
    intro dependency hmem
    rcases List.mem_cons.mp hmem with rfl | hmem
    · exact hextends.kept (getOrCreateEmptyDescriptors_pointer data type)
    · exact hcaptured dependency hmem

/-- A descriptor created for a type and then added to it. -/
theorem WellFormed.addDescriptor (hdata : data.WellFormed) (type : τ) (copyConstructible : Bool)
    (lifetime : ServiceLifetime) (instance_ : Option V) (factory : ServiceFactory τ V W E)
    (hcaptured : ∀ header, ∀ dependency ∈ (ServiceDescriptor.registered (V := V) header factory).dependencies,
      data.descriptorsMap dependency.type = some dependency.descriptors) :
    WellFormed (((data.createDescriptor type copyConstructible lifetime instance_ factory).2).addDescriptor type
      (data.createDescriptor type copyConstructible lifetime instance_ factory).1) := by
  have hcreated : WellFormed { data with nextDescriptor := data.nextDescriptor + 1 } :=
    { hdata with address_lt := fun hmem hheader => Nat.lt_succ_of_lt (hdata.address_lt hmem hheader) }
  have hextends := getOrCreateEmptyDescriptors_extends hcreated type
  refine (hcreated.getOrCreateEmptyDescriptors type).append (getOrCreateEmptyDescriptors_pointer _ type) rfl ?_ ?_ ?_
  · rw [hextends.nextDescriptor]
    exact Nat.lt_succ_self _
  · intro list descriptor inner hmem hinner
    rw [hextends.lists] at hmem
    exact hdata.address_lt hmem hinner
  · exact fun dependency hmem => hextends.kept (hcaptured _ dependency hmem)

theorem WellFormed.add (hdata : data.WellFormed) (registration : ServiceRegistration τ V W E) :
    (data.add registration).WellFormed := by
  unfold ContainerData.add
  split
  · rename_i dependencyTypes construct lifetime hsource
    obtain ⟨hwell, -, hcaptured⟩ := getDependencyDescriptors_spec hdata dependencyTypes
    exact hwell.addDescriptor _ _ _ _ _ fun _ => hcaptured
  · exact hdata.addDescriptor _ _ _ _ _ fun _ _ hmem => by cases hmem
  · exact hdata.addDescriptor _ _ _ _ _ fun _ _ hmem => by cases hmem

end Register

/-- Each descriptor of a patched list wraps the one that stood in its place, with the function if it is the first. -/
theorem getElem?_patchDescriptors (next : Nat) (func : Option (StorageRef → V → ServiceProgram τ V W E))
    (descriptors : List (ServiceDescriptor τ V W E)) (i : Nat) :
    (patchDescriptors next func descriptors)[i]? = descriptors[i]?.map fun original =>
      .patched ⟨next + i, original.header.type, original.header.copyConstructible, original.getLifetime, none⟩ original
        (if i = 0 then func else none) := by
  induction descriptors generalizing next func i with
  | nil => rfl
  | cons original rest ih =>
    cases i with
    | zero => rfl
    | succ i =>
      rw [patchDescriptors, List.getElem?_cons_succ, List.getElem?_cons_succ, ih]
      simp only [ite_self, if_neg (Nat.succ_ne_zero i), Nat.add_right_comm, Nat.add_assoc]

theorem length_patchDescriptors (next : Nat) (func : Option (StorageRef → V → ServiceProgram τ V W E))
    (descriptors : List (ServiceDescriptor τ V W E)) :
    (patchDescriptors next func descriptors).length = descriptors.length := by
  induction descriptors generalizing next func with
  | nil => rfl
  | cons original rest ih => rw [patchDescriptors, List.length_cons, ih, List.length_cons]

section Patch

variable {data : ContainerData τ V W E} {list : Nat} {func : StorageRef → V → ServiceProgram τ V W E}

/-- The lists after the list at `list` has been patched. -/
def patchedLists (data : ContainerData τ V W E) (list : Nat) (func : StorageRef → V → ServiceProgram τ V W E) :
    Nat → List (ServiceDescriptor τ V W E) :=
  Function.update data.lists list (patchDescriptors data.nextDescriptor (some func) (data.lists list))

/-- A descriptor of a patched container stood where it stands, or wraps the one that did, under an address that the
    patch allocated. -/
theorem getElem?_patchedLists {other i : Nat} {found : ServiceDescriptor τ V W E}
    (hfound : (patchedLists data list func other)[i]? = some found) :
    (other ≠ list ∧ (data.lists other)[i]? = some found) ∨
    ∃ original header wrapper, other = list ∧ (data.lists list)[i]? = some original ∧
      found = .patched header original wrapper ∧ header.address = data.nextDescriptor + i ∧
      header.type = original.header.type := by
  by_cases hother : other = list
  · rw [hother, patchedLists, Function.update_self, getElem?_patchDescriptors, Option.map_eq_some_iff] at hfound
    obtain ⟨original, horiginal, rfl⟩ := hfound
    exact .inr ⟨original, _, _, hother, horiginal, rfl, rfl, rfl⟩
  · rw [patchedLists, Function.update_of_ne hother] at hfound
    exact .inl ⟨hother, hfound⟩

/-- The headers below a descriptor of a patched container: an old one, at the same place, or a new one on top. -/
theorem header_patchedLists {other i : Nat} {found : ServiceDescriptor τ V W E} {header : ServiceHeader τ V}
    (hfound : (patchedLists data list func other)[i]? = some found) (hheader : header ∈ found.headers) :
    (∃ original, (data.lists other)[i]? = some original ∧ header ∈ original.headers) ∨
    (other = list ∧ i < (data.lists list).length ∧ header.address = data.nextDescriptor + i ∧
      ∃ original, (data.lists list)[i]? = some original ∧ header.type = original.header.type) := by
  rcases getElem?_patchedLists hfound with ⟨-, hold⟩ | ⟨original, top, wrapper, rfl, hold, rfl, haddress, htype⟩
  · exact .inl ⟨found, hold, hheader⟩
  · rcases List.mem_cons.mp hheader with rfl | hbelow
    · have hlt : i < (data.lists other).length := (List.getElem?_eq_some_iff.mp hold).1
      exact .inr ⟨rfl, hlt, haddress, original, hold, htype⟩
    · exact .inl ⟨original, hold, hbelow⟩

theorem WellFormed.patchedLists (hdata : data.WellFormed) {type : τ} (hlist : data.descriptorsMap type = some list)
    (func : StorageRef → V → ServiceProgram τ V W E) :
    WellFormed { data with
      lists := patchedLists data list func
      nextDescriptor := data.nextDescriptor + (data.lists list).length } := by
  have hbelow : ∀ {other i : Nat} {original : ServiceDescriptor τ V W E} {header : ServiceHeader τ V},
      (data.lists other)[i]? = some original → header ∈ original.headers → header.address < data.nextDescriptor :=
    fun hget hheader => hdata.address_lt (List.mem_of_getElem? hget) hheader
  constructor
  case list_lt => exact hdata.list_lt
  case list_inj => exact hdata.list_inj
  case unallocated =>
    intro other hle
    have hne : other ≠ list := by
      rintro rfl
      exact absurd (hdata.list_lt hlist) (Nat.not_lt.mpr hle)
    exact (Function.update_of_ne hne ..).trans (hdata.unallocated hle)
  case captured =>
    intro other descriptor dependency hmem hdependency
    obtain ⟨i, hget⟩ := List.getElem?_of_mem hmem
    rcases getElem?_patchedLists hget with ⟨-, hold⟩ | ⟨original, header, wrapper, -, hold, rfl, -⟩
    · exact hdata.captured (List.mem_of_getElem? hold) hdependency
    · exact hdata.captured (List.mem_of_getElem? hold) hdependency
  case typed =>
    intro other list' descriptor header hmap hmem hheader
    obtain ⟨i, hget⟩ := List.getElem?_of_mem hmem
    rcases header_patchedLists hget hheader with ⟨original, hold, hin⟩ | ⟨rfl, -, -, original, hold, htype⟩
    · exact hdata.typed hmap (List.mem_of_getElem? hold) hin
    · rw [htype]
      exact hdata.typed hmap (List.mem_of_getElem? hold) original.header_mem_headers
  case address_lt =>
    intro other descriptor header hmem hheader
    obtain ⟨i, hget⟩ := List.getElem?_of_mem hmem
    rcases header_patchedLists hget hheader with ⟨original, hold, hin⟩ | ⟨-, hlt, haddress, -⟩
    · exact Nat.lt_add_right _ (hbelow hold hin)
    · rw [haddress]
      exact Nat.add_lt_add_left hlt _
  case unique =>
    intro first second i j descriptor descriptor' header header' hfirst hsecond hin hin' heq
    rcases header_patchedLists hfirst hin with ⟨original, hold, hold_in⟩ | ⟨hfst, -, haddress, -⟩ <;>
      rcases header_patchedLists hsecond hin' with ⟨original', hold', hold_in'⟩ | ⟨hsnd, -, haddress', -⟩
    · exact hdata.unique hold hold' hold_in hold_in' heq
    · have hlt := hbelow hold hold_in
      omega
    · have hlt := hbelow hold' hold_in'
      omega
    · exact ⟨hfst.trans hsnd.symm, by omega⟩
  case layered =>
    intro other descriptor hmem
    obtain ⟨i, hget⟩ := List.getElem?_of_mem hmem
    rcases getElem?_patchedLists hget with ⟨-, hold⟩ | ⟨original, header, wrapper, -, hold, rfl, haddress, -⟩
    · exact hdata.layered (List.mem_of_getElem? hold)
    · refine ⟨fun inner hinner => ?_, hdata.layered (List.mem_of_getElem? hold)⟩
      rw [haddress]
      exact Nat.lt_add_right _ (hbelow hold hinner)

theorem WellFormed.patch (hdata : data.WellFormed) (type : τ) (func : StorageRef → V → ServiceProgram τ V W E) :
    (data.patch type func).2.WellFormed := by
  unfold ContainerData.patch
  split
  · exact hdata
  · rename_i list hlist
    exact hdata.patchedLists hlist func

end Patch

end ContainerData

/-- Dependency injection container. The data is that of a container into which services were added and in which
    services were patched. -/
structure Container (τ V W E : Type) extends ContainerData τ V W E where
  wellFormed : toContainerData.WellFormed

namespace Container

def empty : Container τ V W E := ⟨.empty, ContainerData.wellFormed_empty⟩

def add [DecidableEq τ] (container : Container τ V W E) (registration : ServiceRegistration τ V W E) :
    Container τ V W E :=
  ⟨container.toContainerData.add registration, container.wellFormed.add registration⟩

def patch (container : Container τ V W E) (type : τ) (func : StorageRef → V → ServiceProgram τ V W E) :
    Nat × Container τ V W E :=
  ((container.toContainerData.patch type func).1,
    ⟨(container.toContainerData.patch type func).2, container.wellFormed.patch type func⟩)

end Container

end cpv
