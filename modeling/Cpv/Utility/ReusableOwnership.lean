import Cpv.Utility.Reusable

namespace cpv

open ReusableState

/-- Below a frame outside `freeResources` and destructors there is nothing but calls of `reset`. -/
def ReusableFrame.Above (upper lower : ReusableFrame) : Prop :=
  (∀ object size, upper ≠ .freeing object size) → upper ≠ .destroying → ∃ object, lower = .resetting object

namespace ReusableState

/-- How many own an object, with the deleter that has just got one -/
def claims (state : ReusableState) (flying : Option Nat) (object : Nat) : Nat :=
  state.owners object + [flying].count (some object)

/-- Every object that is alive has one owner, and no other object has any. The deleters have read sizes that the storage
    has kept, and nothing has been moved to the target of a move assignment. -/
structure WellFormed (Capacity : Nat) (flying : Option Nat) (state : ReusableState) : Prop where
  length_freeList : state.freeList.length = Capacity
  size_le : state.size ≤ Capacity
  owners : ∀ object, state.claims flying object = 1 ∧ object ∈ state.alive ∨
    state.claims flying object = 0 ∧ object ∉ state.alive
  lt_made : ∀ object ∈ state.alive, object < state.made
  filled : Slots.FilledBelow state.freeList state.size
  saved : (state.size :: state.frames.filterMap ReusableFrame.savedSize).Pairwise (· ≥ ·)
  saved_lt : ∀ size ∈ state.frames.filterMap ReusableFrame.savedSize, size < Capacity
  above : state.frames.Pairwise ReusableFrame.Above
  target : ∀ target other, .assigning target other ∈ state.frames →
    state.handles[target]? = some none ∧ other < state.handles.length ∧ target ≠ other

variable {Capacity : Nat} {flying : Option Nat} {state : ReusableState}

theorem wellFormed_start (Capacity : Nat) : (start Capacity).WellFormed Capacity none where
  length_freeList := List.length_replicate
  size_le := Nat.zero_le _
  owners object := .inr (by simp [start, claims, ReusableState.owners, List.count_replicate])
  lt_made := by simp [start]
  filled := (Slots.filledTo_replicate Capacity).filledBelow
  saved := by simp [start]
  saved_lt := by simp [start]
  above := by simp [start]
  target := by simp [start]

namespace WellFormed

/-- Outside `freeResources` and destructors there is nothing but calls of `reset`. -/
theorem forall_resetting (hstate : state.WellFormed Capacity flying) (hrunning : state.running) :
    ∀ frame ∈ state.frames, ∃ object, frame = .resetting object := by
  have habove := hstate.above
  unfold running at hrunning
  split at hrunning
  · rename_i hframes
    simp [hframes]
  · rename_i object frames hframes
    rw [hframes, List.pairwise_cons] at habove
    rw [hframes]
    intro frame hframe
    rcases List.mem_cons.mp hframe with rfl | hframe
    · exact ⟨object, rfl⟩
    · exact habove.1 frame hframe nofun nofun
  · cases hrunning

theorem savedSizes_eq_nil (hresetting : ∀ frame ∈ state.frames, ∃ object, frame = .resetting object) :
    state.frames.filterMap ReusableFrame.savedSize = [] := by
  rw [List.filterMap_eq_nil_iff]
  intro frame hframe
  obtain ⟨object, rfl⟩ := hresetting frame hframe
  rfl

theorem notMem_assigning (hresetting : ∀ frame ∈ state.frames, ∃ object, frame = .resetting object) (target other : Nat) :
    .assigning target other ∉ state.frames := by
  intro hframe
  obtain ⟨object, hobject⟩ := hresetting _ hframe
  cases hobject

/-- The object that nobody owns any more is destroyed. -/
theorem destroy (hstate : state.WellFormed Capacity flying) :
    { state with alive := flying.elim state.alive state.alive.erase }.WellFormed Capacity none := by
  cases flying with
  | none => exact hstate
  | some object =>
    refine { hstate with
      owners := fun other => ?_
      lt_made := fun other hother => hstate.lt_made other (Finset.mem_of_mem_erase hother) }
    have howners := hstate.owners other
    simp only [claims, Slots.count_none, Option.elim_some, Finset.mem_erase, ReusableState.owners] at howners ⊢
    by_cases heq : object = other
    · rw [heq, List.count_singleton_self] at howners
      exact .inr ⟨by omega, fun hboth => hboth.1 heq.symm⟩
    · have hzero : [some object].count (some other) = 0 := by simp [heq]
      rw [hzero] at howners
      exact howners.imp (fun hone => ⟨hone.1, Ne.symm heq, hone.2⟩) fun hnone => ⟨hnone.1, fun hboth => hnone.2 hboth.2⟩

/-- A frame more, whose local variable gets the object that no one has -/
theorem push {frame : ReusableFrame} {left : Option Nat} (hstate : state.WellFormed Capacity flying)
    (hflying : flying = frame.object ∧ left = none ∨ frame.object = none ∧ left = flying)
    (hsaved : ∀ size, frame.savedSize = some size → size = state.size ∧ size < Capacity)
    (habove : ∀ lower ∈ state.frames, frame.Above lower)
    (htarget : ∀ target other, frame = .assigning target other →
      state.handles[target]? = some none ∧ other < state.handles.length ∧ target ≠ other) :
    { state with frames := frame :: state.frames }.WellFormed Capacity left where
  length_freeList := hstate.length_freeList
  size_le := hstate.size_le
  owners object := by
    have hsame : { state with frames := frame :: state.frames }.claims left object = state.claims flying object := by
      simp only [claims, ReusableState.owners, List.map_cons, ← List.singleton_append (l := state.frames.map _),
        List.count_append]
      rcases hflying with ⟨rfl, rfl⟩ | ⟨hnone, rfl⟩
      · rw [Slots.count_none]
        omega
      · rw [hnone, Slots.count_none]
        omega
    rw [hsame]
    exact hstate.owners object
  lt_made := hstate.lt_made
  filled := hstate.filled
  saved := by
    cases hsize : frame.savedSize with
    | none =>
      rw [List.filterMap_cons_none hsize]
      exact hstate.saved
    | some size =>
      obtain ⟨rfl, -⟩ := hsaved size hsize
      rw [List.filterMap_cons_some hsize]
      refine List.pairwise_cons.mpr ⟨fun other hother => ?_, hstate.saved⟩
      rcases List.mem_cons.mp hother with rfl | hother
      · exact le_rfl
      · exact (List.pairwise_cons.mp hstate.saved).1 other hother
  saved_lt size hsize := by
    obtain ⟨upper, hupper, hread⟩ := List.mem_filterMap.mp hsize
    rcases List.mem_cons.mp hupper with rfl | hupper
    · exact (hsaved size hread).2
    · exact hstate.saved_lt size (List.mem_filterMap.mpr ⟨upper, hupper, hread⟩)
  above := List.pairwise_cons.mpr ⟨habove, hstate.above⟩
  target target other hframe := by
    rcases List.mem_cons.mp hframe with heq | hframe
    · exact htarget target other heq.symm
    · exact hstate.target target other hframe

/-- A frame less. What its local variable owned is owned by nobody. -/
theorem pop {frame : ReusableFrame} {frames : List ReusableFrame} (hstate : state.WellFormed Capacity none)
    (hframes : state.frames = frame :: frames) : { state with frames }.WellFormed Capacity frame.object where
  length_freeList := hstate.length_freeList
  size_le := hstate.size_le
  owners object := by
    have hsame : { state with frames }.claims frame.object object = state.claims none object := by
      simp only [claims, ReusableState.owners, hframes, List.map_cons, Slots.count_none,
        ← List.singleton_append (l := frames.map _), List.count_append]
      omega
    rw [hsame]
    exact hstate.owners object
  lt_made := hstate.lt_made
  filled := hstate.filled
  saved := by
    have hsaved := hstate.saved
    rw [hframes] at hsaved
    refine hsaved.sublist (List.Sublist.cons_cons _ ?_)
    exact (List.sublist_cons_self frame frames).filterMap _
  saved_lt size hsize := by
    refine hstate.saved_lt size ?_
    rw [hframes]
    exact ((List.sublist_cons_self frame frames).filterMap _).subset hsize
  above := by
    have habove := hstate.above
    rw [hframes] at habove
    exact (List.pairwise_cons.mp habove).2
  target target other hframe := hstate.target target other (by
    rw [hframes]
    exact List.mem_cons_of_mem _ hframe)

/-- An object goes to the deleter. -/
theorem deleter {object : Nat} (hstate : state.WellFormed Capacity (some object)) :
    (state.deleter object).WellFormed Capacity none := by
  unfold ReusableState.deleter
  split
  · rename_i hroom
    rw [hstate.length_freeList] at hroom
    refine hstate.push (.inl ⟨rfl, rfl⟩) ?_ (fun lower _ hnot => absurd rfl (hnot object state.size)) nofun
    intro size hsize
    cases hsize
    exact ⟨rfl, hroom⟩
  · exact hstate.destroy.push (.inl ⟨rfl, rfl⟩) nofun (fun lower _ _ hnot => absurd rfl hnot) nofun

/-- What a handle owns is taken out of it. -/
theorem takeHandle {handle : Nat} {ptr : Option Nat} (hstate : state.WellFormed Capacity none)
    (hhandle : state.handles[handle]? = some ptr) :
    { state with handles := state.handles.set handle none }.WellFormed Capacity ptr := by
  refine { hstate with owners := fun other => ?_, target := fun target other hframe => ?_ }
  · have hsame : { state with handles := state.handles.set handle none }.claims ptr other = state.claims none other := by
      have hcount := Slots.count_set_add hhandle none other
      simp only [claims, ReusableState.owners]
      omega
    rw [hsame]
    exact hstate.owners other
  · obtain ⟨htarget, hother, hne⟩ := hstate.target target other hframe
    refine ⟨?_, by rw [List.length_set]; exact hother, hne⟩
    by_cases hsame : handle = target
    · rw [hsame]
      exact List.getElem?_set_self (List.getElem?_eq_some_iff.mp htarget).1
    · rw [List.getElem?_set_ne hsame]
      exact htarget

/-- A new handle takes what nobody owns. -/
theorem giveHandle (hstate : state.WellFormed Capacity flying) :
    { state with handles := state.handles ++ [flying] }.WellFormed Capacity none := by
  refine { hstate with owners := fun object => ?_, target := fun target other hframe => ?_ }
  · have hsame : { state with handles := state.handles ++ [flying] }.claims none object = state.claims flying object := by
      simp only [claims, ReusableState.owners, List.count_append, Slots.count_none]
      omega
    rw [hsame]
    exact hstate.owners object
  · obtain ⟨htarget, hother, hne⟩ := hstate.target target other hframe
    refine ⟨?_, by rw [List.length_append]; exact Nat.lt_add_right _ hother, hne⟩
    rw [List.getElem?_append_left (List.getElem?_eq_some_iff.mp htarget).1]
    exact htarget

/-- What one handle owns goes to another that owns nothing. -/
theorem moveInto {target other : Nat} (hstate : state.WellFormed Capacity none)
    (htarget : state.handles[target]? = some none) (hother : other < state.handles.length) (hne : target ≠ other)
    (hassigning : ∀ target other, .assigning target other ∉ state.frames) :
    (state.moveInto target other).WellFormed Capacity none := by
  refine { hstate with
    owners := fun object => ?_
    target := fun target other hframe => absurd hframe (hassigning target other) }
  have hsame : (state.moveInto target other).claims none object = state.claims none object := by
    have hptr : (state.handles.set target (state.handles.getD other none))[other]? =
        some (state.handles.getD other none) := by
      rw [List.getElem?_set_ne hne, Slots.getElem?_eq_getD hother]
    have hset := Slots.count_set_add htarget (state.handles.getD other none) object
    have hset' := Slots.count_set_add hptr none object
    simp only [claims, ReusableState.owners, ReusableState.moveInto]
    omega
  rw [hsame]
  exact hstate.owners object

theorem resume (hstate : state.WellFormed Capacity none) : state.resume.WellFormed Capacity none := by
  unfold ReusableState.resume
  split
  · rename_i target other frames hframes
    obtain ⟨htarget, hother, hne⟩ := hstate.target target other (by rw [hframes]; exact List.mem_cons_self)
    refine (hstate.pop hframes).moveInto htarget hother hne (notMem_assigning fun frame hframe => ?_)
    have habove := hstate.above
    rw [hframes] at habove
    exact (List.pairwise_cons.mp habove).1 frame hframe nofun nofun
  · exact hstate

/-- The sizes that a deleter and the deleters around it have read -/
theorem saved_of_freeing {object size : Nat} {frames : List ReusableFrame} (hstate : state.WellFormed Capacity none)
    (hframes : state.frames = .freeing object size :: frames) :
    size < Capacity ∧ size ≤ state.size ∧ (size :: frames.filterMap ReusableFrame.savedSize).Pairwise (· ≥ ·) := by
  have hread : (ReusableFrame.freeing object size).savedSize = some size := rfl
  have hsaved := hstate.saved
  have hsaved_lt := hstate.saved_lt
  rw [hframes, List.filterMap_cons_some hread] at hsaved hsaved_lt
  obtain ⟨hsizes, hrest⟩ := List.pairwise_cons.mp hsaved
  exact ⟨hsaved_lt size List.mem_cons_self, hsizes size List.mem_cons_self, hrest⟩

/-- The object goes to the slot, and what was there is owned by nobody. -/
theorem putSlot {object size : Nat} {frames : List ReusableFrame} (hstate : state.WellFormed Capacity none)
    (hframes : state.frames = .freeing object size :: frames) :
    { state with freeList := state.freeList.set size (some object), size := size + 1, frames }.WellFormed Capacity
      (state.freeList.getD size none) := by
  have hpopped := hstate.pop hframes
  obtain ⟨hlt, hle, hsaved⟩ := hstate.saved_of_freeing hframes
  have hindex : size < state.freeList.length := hlt.trans_le hstate.length_freeList.ge
  have hfilled : Slots.FilledBelow state.freeList size := fun i hi => hstate.filled i (by omega)
  refine
    { hpopped with
      length_freeList := by rw [List.length_set]; exact hstate.length_freeList
      size_le := hlt
      owners := fun other => ?_
      filled := hfilled.put hindex object
      saved := List.pairwise_cons.mpr ⟨fun other hother => ?_, (List.pairwise_cons.mp hsaved).2⟩ }
  · have hsame : { state with freeList := state.freeList.set size (some object), size := size + 1, frames }.claims
        (state.freeList.getD size none) other = { state with frames }.claims (some object) other := by
      have hset := Slots.count_set_add (Slots.getElem?_eq_getD hindex) (some object) other
      simp only [claims, ReusableState.owners]
      omega
    rw [hsame]
    exact hpopped.owners other
  · have hbelow := (List.pairwise_cons.mp hsaved).1 other hother
    show other ≤ size + 1
    omega

end WellFormed

end ReusableState

end cpv
