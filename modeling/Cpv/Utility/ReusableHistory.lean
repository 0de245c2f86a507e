import Cpv.Utility.ReusableOwnership

namespace cpv

namespace ReusableState

/-- What `freeResources` has released leaves at most one object more in the free list than there were when the deleter
    has read the size. -/
def LeavesAtMostOne (state : ReusableState) (label : ReusableLabel) : Prop :=
  label = .freeResourcesReturns → ∀ size ∈ state.frames.head?.bind ReusableFrame.savedSize, state.size ≤ size + 1

instance : DecidableRel LeavesAtMostOne := fun state label =>
  inferInstanceAs (Decidable (label = .freeResourcesReturns →
    ∀ size ∈ state.frames.head?.bind ReusableFrame.savedSize, state.size ≤ size + 1))

/-- Every object that was not destroyed has one owner, which is a handle or a slot between operations, and one that is
    handed out has no other. The slots that the size counts are those that hold an object. -/
structure Sound (Capacity : Nat) (state : ReusableState) : Prop where
  owned : ∀ object ∈ state.alive, state.owners object = 1
  unowned : ∀ object ∉ state.alive, state.owners object = 0
  between : state.frames = [] →
    ∀ object ∈ state.alive, state.handles.count (some object) + state.freeList.count (some object) = 1
  handedOut : ∀ object, .resetting object ∈ state.frames →
    state.handles.count (some object) = 0 ∧ state.freeList.count (some object) = 0
  filled : Slots.FilledTo state.freeList state.size
  size_le : state.size ≤ Capacity

variable {Capacity : Nat} {flying : Option Nat} {state after : ReusableState}

namespace WellFormed

/-- A new object, which nobody owns yet -/
theorem construct (hstate : state.WellFormed Capacity none) :
    { state with alive := insert state.made state.alive, made := state.made + 1 }.WellFormed Capacity
      (some state.made) := by
  have hmade : state.made ∉ state.alive := fun hmade => absurd (hstate.lt_made _ hmade) (lt_irrefl _)
  refine { hstate with owners := fun object => ?_, lt_made := fun object hobject => ?_ }
  · have howners := hstate.owners object
    simp only [claims, Slots.count_none, ReusableState.owners, Finset.mem_insert] at howners ⊢
    by_cases heq : object = state.made
    · rw [heq] at howners ⊢
      have hnone := howners.resolve_left fun hone => hmade hone.2
      rw [List.count_singleton_self]
      exact .inl ⟨by omega, .inl rfl⟩
    · have hzero : [some state.made].count (some object) = 0 := by simp [Ne.symm heq]
      rw [hzero]
      exact howners.imp (fun hone => ⟨hone.1, .inr hone.2⟩) fun hnone => ⟨hnone.1, fun hboth => hboth.elim heq hnone.2⟩
  · rcases Finset.mem_insert.mp hobject with rfl | hobject
    · exact Nat.lt_succ_self _
    · exact (hstate.lt_made object hobject).trans (Nat.lt_succ_self _)

/-- The object of the last filled slot is taken, where no deleter has read a size. -/
theorem takeSlot {object size : Nat} (hstate : state.WellFormed Capacity none) (hrunning : state.running)
    (hsize : state.size = size + 1) (hslot : state.freeList[size]? = some (some object)) :
    { state with freeList := state.freeList.set size none, size }.WellFormed Capacity (some object) := by
  have hfilled := hstate.filled
  have hsize_le := hstate.size_le
  rw [hsize] at hfilled hsize_le
  refine
    { hstate with
      length_freeList := by rw [List.length_set]; exact hstate.length_freeList
      size_le := Nat.le_of_succ_le hsize_le
      owners := fun other => ?_
      filled := hfilled.take
      saved := by rw [savedSizes_eq_nil (hstate.forall_resetting hrunning)]; exact List.pairwise_singleton _ _ }
  have hsame : { state with freeList := state.freeList.set size none, size }.claims (some object) other =
      state.claims none other := by
    have hcount := Slots.count_set_add hslot none other
    simp only [claims, ReusableState.owners]
    omega
  rw [hsame]
  exact hstate.owners other

/-- The local handle of `makeReusable` gets an object. -/
theorem pushResetting {object : Nat} (hstate : state.WellFormed Capacity (some object))
    (hresetting : ∀ frame ∈ state.frames, ∃ object, frame = .resetting object) :
    { state with frames := .resetting object :: state.frames }.WellFormed Capacity none :=
  hstate.push (.inl ⟨rfl, rfl⟩) nofun (fun lower hlower _ _ => hresetting lower hlower) nofun

theorem makeReusable {constructed : Bool} (hstate : state.WellFormed Capacity none) (hrunning : state.running)
    (hafter : state.makeReusable constructed = some after) : after.WellFormed Capacity none := by
  have hresetting := hstate.forall_resetting hrunning
  unfold ReusableState.makeReusable at hafter
  split at hafter
  · split at hafter
    · cases hafter
      exact hstate.construct.pushResetting hresetting
    · cases hafter
      exact hstate
  · rename_i hsize
    obtain ⟨size, hsize⟩ := Nat.exists_eq_succ_of_ne_zero hsize
    obtain ⟨object, hslot⟩ := hstate.filled size (by omega)
    rw [hsize, Nat.succ_sub_one, List.getD_eq_getElem?_getD, hslot] at hafter
    cases hafter
    exact (hstate.takeSlot hrunning hsize hslot).pushResetting hresetting

theorem reset {handle : Nat} (hstate : state.WellFormed Capacity none) (hafter : state.reset handle = some after) :
    after.WellFormed Capacity none := by
  obtain ⟨ptr, hhandle, rfl⟩ := Option.map_eq_some_iff.mp hafter
  cases ptr with
  | none => exact hstate
  | some object => exact (hstate.takeHandle hhandle).deleter

theorem moveConstruct {handle : Nat} (hstate : state.WellFormed Capacity none)
    (hafter : state.moveConstruct handle = some after) : after.WellFormed Capacity none := by
  obtain ⟨ptr, hhandle, rfl⟩ := Option.map_eq_some_iff.mp hafter
  exact (hstate.takeHandle hhandle).giveHandle

theorem moveAssign {target other : Nat} (hstate : state.WellFormed Capacity none) (hrunning : state.running)
    (hafter : state.moveAssign target other = some after) : after.WellFormed Capacity none := by
  have hresetting := hstate.forall_resetting hrunning
  unfold ReusableState.moveAssign at hafter
  split at hafter
  · cases hafter
    exact hstate
  rename_i hne
  split at hafter
  · rename_i hother
    obtain ⟨ptr, htarget, rfl⟩ := Option.map_eq_some_iff.mp hafter
    cases ptr with
    | none => exact hstate.moveInto htarget hother hne (notMem_assigning hresetting)
    | some object =>
      refine WellFormed.deleter ((hstate.takeHandle htarget).push (.inr ⟨rfl, rfl⟩) nofun
        (fun lower hlower _ _ => hresetting lower hlower) fun target' other' hframe => ?_)
      cases hframe
      refine ⟨List.getElem?_set_self (List.getElem?_eq_some_iff.mp htarget).1, ?_, hne⟩
      rw [List.length_set]
      exact hother
  · cases hafter

theorem freeResourcesReturns (hstate : state.WellFormed Capacity none)
    (hafter : state.freeResourcesReturns = some after) : after.WellFormed Capacity none := by
  unfold ReusableState.freeResourcesReturns at hafter
  split at hafter
  · rename_i object size frames hframes
    cases hafter
    exact (hstate.putSlot hframes).destroy.resume
  · cases hafter

theorem freeResourcesThrows (hstate : state.WellFormed Capacity none)
    (hafter : state.freeResourcesThrows = some after) : after.WellFormed Capacity none := by
  unfold ReusableState.freeResourcesThrows at hafter
  split at hafter
  · rename_i object size frames hframes
    cases hafter
    exact (hstate.pop hframes).destroy.push (.inl ⟨rfl, rfl⟩) nofun (fun lower _ _ hnot => absurd rfl hnot) nofun
  · cases hafter

theorem step {label : ReusableLabel} (hstate : state.WellFormed Capacity none) (hafter : state.step label = some after) :
    after.WellFormed Capacity none := by
  cases label with
  | makeReusable constructed =>
    obtain ⟨hrunning, hafter⟩ := Option.ite_none_right_eq_some.mp hafter
    exact hstate.makeReusable hrunning hafter
  | resetReturns =>
    simp only [ReusableState.step] at hafter
    split at hafter
    · rename_i object frames hframes
      cases hafter
      exact (hstate.pop hframes).giveHandle
    · cases hafter
  | resetThrows =>
    simp only [ReusableState.step] at hafter
    split at hafter
    · rename_i object frames hframes
      cases hafter
      exact (hstate.pop hframes).deleter
    · cases hafter
  | moveConstruct handle =>
    obtain ⟨-, hafter⟩ := Option.ite_none_right_eq_some.mp hafter
    exact hstate.moveConstruct hafter
  | moveAssign target other =>
    obtain ⟨hrunning, hafter⟩ := Option.ite_none_right_eq_some.mp hafter
    exact hstate.moveAssign hrunning hafter
  | cast handle sameAddress =>
    obtain ⟨-, hafter⟩ := Option.ite_none_right_eq_some.mp hafter
    cases sameAddress with
    | true => exact hstate.moveConstruct hafter
    | false =>
      cases hafter
      exact hstate
  | reset handle => exact hstate.reset hafter
  | freeResourcesReturns => exact hstate.freeResourcesReturns hafter
  | freeResourcesThrows => exact hstate.freeResourcesThrows hafter
  | destructorReturns =>
    simp only [ReusableState.step] at hafter
    split at hafter
    · rename_i frames hframes
      cases hafter
      exact (hstate.pop hframes).resume
    · cases hafter

theorem owners_eq_one {object : Nat} (hstate : state.WellFormed Capacity none) (halive : object ∈ state.alive) :
    state.owners object = 1 := by
  have hclaims := ((hstate.owners object).resolve_right fun hnone => hnone.2 halive).1
  rw [claims, Slots.count_none] at hclaims
  exact hclaims

theorem owners_eq_zero {object : Nat} (hstate : state.WellFormed Capacity none) (hdestroyed : object ∉ state.alive) :
    state.owners object = 0 := by
  have hclaims := ((hstate.owners object).resolve_left fun hone => hdestroyed hone.2).1
  rw [claims, Slots.count_none] at hclaims
  exact hclaims

/-- What is left of the property is the filling of the slots. -/
theorem sound (hstate : state.WellFormed Capacity none) (hfilled : Slots.FilledTo state.freeList state.size) :
    state.Sound Capacity where
  owned object := hstate.owners_eq_one
  unowned object := hstate.owners_eq_zero
  between hframes object halive := by
    have hone := hstate.owners_eq_one halive
    rw [ReusableState.owners, hframes, List.map_nil, List.count_nil] at hone
    exact hone
  handedOut object hframe := by
    have hlocal : 0 < (state.frames.map ReusableFrame.object).count (some object) :=
      List.count_pos_iff.mpr (List.mem_map.mpr ⟨_, hframe, rfl⟩)
    have hle : state.owners object ≤ 1 := by
      by_cases halive : object ∈ state.alive
      · exact (hstate.owners_eq_one halive).le
      · exact (hstate.owners_eq_zero halive).le.trans (Nat.zero_le 1)
    rw [ReusableState.owners] at hle
    omega
  filled := hfilled
  size_le := hstate.size_le

end WellFormed

section Storage

theorem deleter_storage (state : ReusableState) (object : Nat) :
    (state.deleter object).freeList = state.freeList ∧ (state.deleter object).size = state.size := by
  unfold deleter
  split <;> exact ⟨rfl, rfl⟩

theorem resume_storage (state : ReusableState) : state.resume.freeList = state.freeList ∧ state.resume.size = state.size := by
  unfold resume
  split <;> exact ⟨rfl, rfl⟩

theorem freeResourcesReturns_storage (hafter : state.freeResourcesReturns = some after) :
    ∃ object size frames, state.frames = .freeing object size :: frames ∧
      after.freeList = state.freeList.set size (some object) ∧ after.size = size + 1 := by
  unfold freeResourcesReturns at hafter
  split at hafter
  · rename_i object size frames hframes
    cases hafter
    exact ⟨object, size, frames, hframes, resume_storage _⟩
  · cases hafter

/-- What other steps do to the storage: nothing, or the object of the last slot is taken. -/
theorem step_storage {label : ReusableLabel} (hlabel : label ≠ .freeResourcesReturns)
    (hafter : state.step label = some after) :
    after.freeList = state.freeList ∧ after.size = state.size ∨
      ∃ size, state.size = size + 1 ∧ after.freeList = state.freeList.set size none ∧ after.size = size := by
  cases label with
  | makeReusable constructed =>
    obtain ⟨-, hafter⟩ := Option.ite_none_right_eq_some.mp hafter
    unfold makeReusable at hafter
    split at hafter
    · split at hafter
      all_goals
        cases hafter
        exact .inl ⟨rfl, rfl⟩
    · rename_i hsize
      obtain ⟨size, hsize⟩ := Nat.exists_eq_succ_of_ne_zero hsize
      obtain ⟨object, -, rfl⟩ := Option.map_eq_some_iff.mp hafter
      rw [hsize]
      exact .inr ⟨size, rfl, rfl, rfl⟩
  | resetReturns =>
    simp only [step] at hafter
    split at hafter
    · cases hafter
      exact .inl ⟨rfl, rfl⟩
    · cases hafter
  | resetThrows =>
    simp only [step] at hafter
    split at hafter
    · cases hafter
      exact .inl (deleter_storage _ _)
    · cases hafter
  | moveConstruct handle =>
    obtain ⟨-, hafter⟩ := Option.ite_none_right_eq_some.mp hafter
    obtain ⟨ptr, -, rfl⟩ := Option.map_eq_some_iff.mp hafter
    exact .inl ⟨rfl, rfl⟩
  | moveAssign target other =>
    obtain ⟨-, hafter⟩ := Option.ite_none_right_eq_some.mp hafter
    unfold moveAssign at hafter
    split at hafter
    · cases hafter
      exact .inl ⟨rfl, rfl⟩
    split at hafter
    · obtain ⟨ptr, -, rfl⟩ := Option.map_eq_some_iff.mp hafter
      cases ptr with
      | none => exact .inl ⟨rfl, rfl⟩
      | some object => exact .inl (deleter_storage _ _)
    · cases hafter
  | cast handle sameAddress =>
    obtain ⟨-, hafter⟩ := Option.ite_none_right_eq_some.mp hafter
    cases sameAddress with
    | true =>
      obtain ⟨ptr, -, rfl⟩ := Option.map_eq_some_iff.mp hafter
      exact .inl ⟨rfl, rfl⟩
    | false =>
      cases hafter
      exact .inl ⟨rfl, rfl⟩
  | reset handle =>
    obtain ⟨ptr, -, rfl⟩ := Option.map_eq_some_iff.mp hafter
    cases ptr with
    | none => exact .inl ⟨rfl, rfl⟩
    | some object => exact .inl (deleter_storage _ _)
  | freeResourcesReturns => exact absurd rfl hlabel
  | freeResourcesThrows =>
    simp only [step, freeResourcesThrows] at hafter
    split at hafter
    · cases hafter
      exact .inl ⟨rfl, rfl⟩
    · cases hafter
  | destructorReturns =>
    simp only [step] at hafter
    split at hafter
    · cases hafter
      exact .inl (resume_storage _)
    · cases hafter

end Storage

theorem run_wellFormed {labels : List ReusableLabel} {final : ReusableState}
    (hrun : Machine.run step (start Capacity) labels = some final) : final.WellFormed Capacity none :=
  Machine.run_preserves (fun _ _ _ hstep hstate => hstate.step hstep) hrun (wellFormed_start Capacity)

/-- The slot that `makeReusable` takes is never a null one, in any run. -/
theorem makeReusable_ne_none {labels : List ReusableLabel} {final : ReusableState}
    (hrun : Machine.run step (start Capacity) labels = some final) (constructed : Bool) :
    final.makeReusable constructed ≠ none := by
  have hfinal := run_wellFormed hrun
  unfold makeReusable
  split
  · split <;> exact Option.some_ne_none _
  · rename_i hsize
    obtain ⟨object, hslot⟩ := hfinal.filled (final.size - 1) (by omega)
    rw [List.getD_eq_getElem?_getD, hslot]
    exact Option.some_ne_none _

/-- From a state whose slots are filled as the size says, the step of a deleter that finds too many is the only one to a
    state where they are not. -/
theorem filledTo_step {label : ReusableLabel} (hstate : state.WellFormed Capacity none)
    (hfilled : Slots.FilledTo state.freeList state.size) (hafter : state.step label = some after) :
    Slots.FilledTo after.freeList after.size ↔ LeavesAtMostOne state label := by
  by_cases hlabel : label = .freeResourcesReturns
  · rw [hlabel] at hafter ⊢
    obtain ⟨object, size, frames, hframes, hlist, hsize⟩ := freeResourcesReturns_storage hafter
    obtain ⟨hlt, hle, -⟩ := hstate.saved_of_freeing hframes
    rw [hlist, hsize, hfilled.put_iff hle (hlt.trans_le hstate.length_freeList.ge)]
    simp [LeavesAtMostOne, hframes, ReusableFrame.savedSize]
  · refine iff_of_true ?_ fun heq => absurd heq hlabel
    rcases step_storage hlabel hafter with ⟨hlist, hsize⟩ | ⟨size, hsize, hlist, hafterSize⟩
    · rw [hlist, hsize]
      exact hfilled
    · rw [hlist, hafterSize]
      exact (hsize ▸ hfilled).take

/-- In every run where no deleter finds that its free list has grown by more than one object, the free list duplicates
    none. -/
theorem run_sound (Capacity : Nat) (labels : List ReusableLabel) {final : ReusableState}
    (hrun : Machine.run step (start Capacity) labels = some final)
    (hleaves : Machine.Conforms step LeavesAtMostOne (start Capacity) labels) : final.Sound Capacity := by
  have hwellFormed := run_wellFormed hrun
  have hfilled : final.WellFormed Capacity none ∧ Slots.FilledTo final.freeList final.size :=
    Machine.run_preserves_of_conforms
      (P := fun state => state.WellFormed Capacity none ∧ Slots.FilledTo state.freeList state.size)
      (fun before label after hleaves hstep hbefore =>
        ⟨hbefore.1.step hstep, (filledTo_step hbefore.1 hbefore.2 hstep).mpr hleaves⟩)
      hleaves hrun ⟨wellFormed_start Capacity, Slots.filledTo_replicate Capacity⟩
  exact hwellFormed.sound hfilled.2

/-- An object is made in the `reset` of another, and released in its `freeResources`. -/
theorem run_sound_nested :
    ∃ final : ReusableState,
      Machine.run step (start 2)
        [.makeReusable true, .makeReusable true, .resetReturns, .resetReturns, .reset 1, .reset 0, .freeResourcesReturns,
          .freeResourcesReturns] = some final ∧
      final.Sound 2 :=
  Exists.imp (fun _ hrun => ⟨hrun, run_sound 2 _ hrun (by decide)⟩) (Option.isSome_iff_exists.mp rfl)

/-- The `freeResources` of an object releases two others. -/
theorem not_sound_releasing_two :
    ∃ final : ReusableState,
      Machine.run step (start 3)
        [.makeReusable true, .resetReturns, .makeReusable true, .resetReturns, .makeReusable true, .resetReturns,
          .reset 0, .reset 1, .freeResourcesReturns, .reset 2, .freeResourcesReturns, .freeResourcesReturns] = some final ∧
      final.frames = [] ∧ ¬ final.Sound 3 := by
  refine ⟨_, rfl, rfl, fun hsound => ?_⟩
  have hslot := (hsound.filled 1).mp ⟨2, rfl⟩
  exact absurd hslot (by decide)

end ReusableState

end cpv
