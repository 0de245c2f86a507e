import Cpv.Core.Machine
import Cpv.Core.Regions

namespace cpv

/-- The size and the alignment of the objects of a type -/
structure ObjectType where
  sizeof : Nat
  alignof : Nat
  sizeof_pos : 0 < sizeof := by decide
  alignof_pos : 0 < alignof := by decide

/-- Memory for some objects of a type, whose size is a size_t -/
structure Request where
  type : ObjectType
  n : Nat
  n_pos : 0 < n := by decide
  size_lt : type.sizeof * n < 2 ^ 64 := by decide

/-- The place of `buf_`. The address behind it is an address, too. -/
structure Buf where
  data : Nat
  size : Nat
  fits : data + size < 2 ^ 64 := by decide

/-- `std::align`: the first aligned address from a pointer on and the space behind it, where the space is large enough. -/
def align (alignment size ptr space : Nat) : Option (Nat × Nat) :=
  let aligned := (ptr + (alignment - 1)) / alignment * alignment
  if aligned - ptr + size ≤ space then some (aligned, space - (aligned - ptr)) else none

theorem align_spec {alignment size ptr space aligned rest : Nat} (halignment : 0 < alignment)
    (halign : align alignment size ptr space = some (aligned, rest)) :
    alignment ∣ aligned ∧ ptr ≤ aligned ∧ aligned + rest = ptr + space ∧ size ≤ rest := by
  rw [align, Option.ite_none_right_eq_some, Option.some.injEq, Prod.mk.injEq] at halign
  obtain ⟨hfits, rfl, rfl⟩ := halign
  have hle : ptr ≤ (ptr + (alignment - 1)) / alignment * alignment := by
    have hmod := Nat.mod_lt (ptr + (alignment - 1)) halignment
    have hdiv := Nat.div_add_mod (ptr + (alignment - 1)) alignment
    rw [Nat.mul_comm] at hdiv
    omega
  exact ⟨Dvd.intro_left _ rfl, hle, by omega, by omega⟩

/-- The memory storage used by StackAllocator<T>. -/
structure StackAllocatorStorage where
  ptr : Nat
  size : Nat
  allocatedCount : Nat
deriving DecidableEq

namespace StackAllocatorStorage

def new (buf : Buf) : StackAllocatorStorage := { ptr := buf.data, size := buf.size, allocatedCount := 0 }

/-- Allocate memory from this storage, return nullptr if space not enough -/
def allocate (storage : StackAllocatorStorage) (request : Request) : Option Nat × StackAllocatorStorage :=
  let size := request.type.sizeof * request.n % 2 ^ 64
  match align request.type.alignof size storage.ptr storage.size with
  | some (ptr, space) =>
    (some ptr,
      { ptr := ptr + size, size := space - size, allocatedCount := (storage.allocatedCount + 1) % 2 ^ 64 })
  | none => (none, storage)

theorem allocate_of_room {storage : StackAllocatorStorage} {request : Request} {ptr space : Nat}
    (halign : align request.type.alignof (request.type.sizeof * request.n) storage.ptr storage.size = some (ptr, space)) :
    storage.allocate request = (some ptr,
      { ptr := ptr + request.type.sizeof * request.n
        size := space - request.type.sizeof * request.n
        allocatedCount := (storage.allocatedCount + 1) % 2 ^ 64 }) := by
  simp only [allocate, Nat.mod_eq_of_lt request.size_lt, halign]

theorem allocate_of_no_room {storage : StackAllocatorStorage} {request : Request}
    (halign : align request.type.alignof (request.type.sizeof * request.n) storage.ptr storage.size = none) :
    storage.allocate request = (none, storage) := by
  simp only [allocate, Nat.mod_eq_of_lt request.size_lt, halign]

/-- Check is pointer allocated from this storage -/
def IsAllocatedFromHere (buf : Buf) (ptr : Nat) : Prop := buf.data ≤ ptr ∧ ptr < buf.data + buf.size

instance (buf : Buf) (ptr : Nat) : Decidable (IsAllocatedFromHere buf ptr) := inferInstanceAs (Decidable (_ ∧ _))

/-- Reduce allocated count, reuse storage when count reach to 0 -/
def deallocate (buf : Buf) (storage : StackAllocatorStorage) : StackAllocatorStorage :=
  let allocatedCount := (storage.allocatedCount + (2 ^ 64 - 1)) % 2 ^ 64
  if allocatedCount = 0 then { ptr := buf.data, size := buf.size, allocatedCount }
  else { storage with allocatedCount }

end StackAllocatorStorage

open StackAllocatorStorage

/-- Memory that was allocated and not given back yet -/
structure Block where
  request : Request
  ptr : Nat

def Block.size (block : Block) : Nat := block.request.type.sizeof * block.request.n

def Block.region (block : Block) : Region := ⟨block.ptr, block.size⟩

theorem Block.size_pos (block : Block) : 0 < block.size :=
  Nat.mul_pos block.request.type.sizeof_pos block.request.n_pos

/-- A storage, and what its users hold: the blocks from the storage, and those from the upstream allocator. -/
structure StorageUsers where
  storage : StackAllocatorStorage
  blocks : List Block
  upstream : List Block

/-- What the users of a storage do. An allocation comes with the answer of the upstream allocator, for where the storage
    has no room: there is none where nobody asks it. -/
inductive StorageLabel
  | allocate (request : Request) (upstream : Option Nat)
  | deallocate (i : Nat)
  | deallocateUpstream (i : Nat)

namespace StorageUsers

variable (buf : Buf)

def start : StorageUsers := { storage := .new buf, blocks := [], upstream := [] }

/-- Allocate memory. The upstream allocator does not give away memory of the storage. -/
def allocate (users : StorageUsers) (request : Request) (upstream : Option Nat) : Option StorageUsers :=
  match users.storage.allocate request, upstream with
  | (some ptr, storage), _ => some { users with storage, blocks := ⟨request, ptr⟩ :: users.blocks }
  | (none, storage), none => some { users with storage }
  | (none, storage), some ptr =>
    if IsAllocatedFromHere buf ptr then none
    else some { users with storage, upstream := ⟨request, ptr⟩ :: users.upstream }

/-- Deallocate memory. What is not from the storage goes to the upstream allocator. -/
def deallocate (storage : StackAllocatorStorage) (ptr : Nat) : StackAllocatorStorage :=
  if IsAllocatedFromHere buf ptr then storage.deallocate buf else storage

def step (users : StorageUsers) : StorageLabel → Option StorageUsers
  | .allocate request upstream => users.allocate buf request upstream
  | .deallocate i => users.blocks[i]?.map fun block =>
    { users with storage := deallocate buf users.storage block.ptr, blocks := users.blocks.eraseIdx i }
  | .deallocateUpstream i => users.upstream[i]?.map fun block =>
    { users with storage := deallocate buf users.storage block.ptr, upstream := users.upstream.eraseIdx i }

/-- The count is that of the blocks from the storage, and they all lie below the pointer. -/
structure WellFormed (users : StorageUsers) : Prop where
  ptr_add_size : users.storage.ptr + users.storage.size = buf.data + buf.size
  packed : Region.Packed buf.data users.storage.ptr (users.blocks.map Block.region)
  allocatedCount : users.storage.allocatedCount = users.blocks.length
  aligned : ∀ block ∈ users.blocks, block.request.type.alignof ∣ block.ptr
  fresh : users.blocks = [] → users.storage = .new buf
  upstream : ∀ block ∈ users.upstream, ¬ IsAllocatedFromHere buf block.ptr

variable {buf} {users after : StorageUsers}

theorem wellFormed_start : (start buf).WellFormed buf where
  ptr_add_size := rfl
  packed := .nil le_rfl
  allocatedCount := rfl
  aligned := by simp [start]
  fresh _ := rfl
  upstream := by simp [start]

namespace WellFormed

theorem within (husers : users.WellFormed buf) {block : Block} (hblock : block ∈ users.blocks) :
    buf.data ≤ block.ptr ∧ block.ptr + block.size ≤ users.storage.ptr :=
  husers.packed.within block.region (List.mem_map_of_mem hblock)

theorem isAllocatedFromHere (husers : users.WellFormed buf) {block : Block} (hblock : block ∈ users.blocks) :
    IsAllocatedFromHere buf block.ptr := by
  obtain ⟨hlow, hhigh⟩ := husers.within hblock
  have hpos := block.size_pos
  have hend := husers.ptr_add_size
  exact ⟨hlow, by omega⟩

/-- There are no more blocks than bytes, so the count does not wrap around. -/
theorem length_blocks_lt (husers : users.WellFormed buf) : users.blocks.length + buf.data ≤ users.storage.ptr := by
  have hle := husers.packed.length_le fun region hregion => by
    obtain ⟨block, -, rfl⟩ := List.mem_map.mp hregion
    exact block.size_pos
  rw [List.length_map] at hle
  have hdata := husers.packed.le
  omega

/-- The new block lies above all others. -/
theorem allocate (husers : users.WellFormed buf) {request : Request} {upstream : Option Nat}
    (hallocate : users.allocate buf request upstream = some after) : after.WellFormed buf := by
  unfold StorageUsers.allocate at hallocate
  cases halign : align request.type.alignof (request.type.sizeof * request.n) users.storage.ptr users.storage.size with
  | some found =>
    obtain ⟨ptr, rest⟩ := found
    rw [allocate_of_room halign] at hallocate
    obtain ⟨haligned, hle, hrest, hfits⟩ := align_spec request.type.alignof_pos halign
    have hlength := husers.length_blocks_lt
    have hend := husers.ptr_add_size
    have hbuf := buf.fits
    have hpos := Nat.mul_pos request.type.sizeof_pos request.n_pos
    cases hallocate
    refine ⟨by simp only; omega, ?_, ?_, ?_, nofun, husers.upstream⟩
    · exact husers.packed.cons (Block.region ⟨request, ptr⟩) hle
    · simp only [List.length_cons, husers.allocatedCount]
      exact Nat.mod_eq_of_lt (by omega)
    · intro block hblock
      rcases List.mem_cons.mp hblock with rfl | hblock
      · exact haligned
      · exact husers.aligned block hblock
  | none =>
    rw [allocate_of_no_room halign] at hallocate
    cases upstream with
    | none =>
      cases hallocate
      exact { husers with }
    | some ptr =>
      simp only [Option.ite_none_left_eq_some, Option.some.injEq] at hallocate
      obtain ⟨houtside, rfl⟩ := hallocate
      refine { husers with upstream := fun block hblock => ?_ }
      rcases List.mem_cons.mp hblock with rfl | hblock
      · exact houtside
      · exact husers.upstream block hblock

/-- The storage starts over where its last block is given back. -/
theorem storage_deallocate (husers : users.WellFormed buf) {i : Nat} (hi : i < users.blocks.length) :
    users.storage.deallocate buf =
      if users.blocks.eraseIdx i = [] then .new buf
      else { users.storage with allocatedCount := (users.blocks.eraseIdx i).length } := by
  have hlength := husers.length_blocks_lt
  have hend := husers.ptr_add_size
  have hbuf := buf.fits
  have hcount : (users.storage.allocatedCount + (2 ^ 64 - 1)) % 2 ^ 64 = (users.blocks.eraseIdx i).length := by
    rw [husers.allocatedCount, List.length_eraseIdx_of_lt hi]
    omega
  simp only [StackAllocatorStorage.deallocate, hcount, List.length_eq_zero_iff]
  split
  · rename_i hempty
    rw [hempty]
    rfl
  · rfl

theorem deallocate (husers : users.WellFormed buf) {i : Nat} (hstep : step buf users (.deallocate i) = some after) :
    after.WellFormed buf := by
  obtain ⟨block, hblock, rfl⟩ := Option.map_eq_some_iff.mp hstep
  obtain ⟨hi, rfl⟩ := List.getElem?_eq_some_iff.mp hblock
  rw [StorageUsers.deallocate, if_pos (husers.isAllocatedFromHere (List.getElem_mem hi)), husers.storage_deallocate hi]
  have hsublist : (users.blocks.eraseIdx i).Sublist users.blocks := List.eraseIdx_sublist ..
  have haligned : ∀ block ∈ users.blocks.eraseIdx i, block.request.type.alignof ∣ block.ptr :=
    fun block hblock => husers.aligned block (hsublist.subset hblock)
  split
  · rename_i hempty
    rw [hempty]
    exact ⟨rfl, .nil le_rfl, rfl, by simp, fun _ => rfl, husers.upstream⟩
  · rename_i hne
    exact ⟨husers.ptr_add_size, husers.packed.sublist (hsublist.map _), rfl, haligned, fun hempty => absurd hempty hne,
      husers.upstream⟩

theorem deallocateUpstream (husers : users.WellFormed buf) {i : Nat}
    (hstep : step buf users (.deallocateUpstream i) = some after) :
    after.WellFormed buf ∧ after.storage = users.storage ∧ after.blocks = users.blocks := by
  obtain ⟨block, hblock, rfl⟩ := Option.map_eq_some_iff.mp hstep
  obtain ⟨hi, rfl⟩ := List.getElem?_eq_some_iff.mp hblock
  rw [StorageUsers.deallocate, if_neg (husers.upstream _ (List.getElem_mem hi))]
  exact ⟨{ husers with upstream := fun block hblock => husers.upstream block (List.mem_of_mem_eraseIdx hblock) }, rfl, rfl⟩

theorem step (husers : users.WellFormed buf) {label : StorageLabel} (hstep : step buf users label = some after) :
    after.WellFormed buf := by
  cases label with
  | allocate request upstream => exact husers.allocate hstep
  | deallocate i => exact husers.deallocate hstep
  | deallocateUpstream i => exact (husers.deallocateUpstream hstep).1

end WellFormed

variable (buf) in
/-- The blocks that are live lie inside the buffer, are aligned and recognised, and do not overlap. The storage is as it
    was at the beginning when there are none. -/
structure Separate (users : StorageUsers) : Prop where
  inside : ∀ block ∈ users.blocks, buf.data ≤ block.ptr ∧ block.ptr + block.size ≤ buf.data + buf.size
  aligned : ∀ block ∈ users.blocks, block.request.type.alignof ∣ block.ptr
  recognised : ∀ block ∈ users.blocks, IsAllocatedFromHere buf block.ptr
  disjoint : users.blocks.Pairwise fun first second => first.region.Disjoint second.region
  fresh : users.storage = .new buf ↔ users.blocks = []

/-- The pointer goes back only where no block is live, and an allocation for which there is no room changes neither the
    storage nor the blocks. -/
structure StepKeeps (before : StorageUsers) (label : StorageLabel) (after : StorageUsers) : Prop where
  reset : after.storage.ptr < before.storage.ptr → after.blocks = []
  failed : ∀ request upstream, label = .allocate request upstream → (before.storage.allocate request).1 = none →
    after.storage = before.storage ∧ after.blocks = before.blocks

namespace WellFormed

theorem separate (husers : users.WellFormed buf) : users.Separate buf where
  inside block hblock := by
    obtain ⟨hlow, hhigh⟩ := husers.within hblock
    have hend := husers.ptr_add_size
    exact ⟨hlow, by omega⟩
  aligned := husers.aligned
  recognised block hblock := husers.isAllocatedFromHere hblock
  disjoint := List.pairwise_map.mp husers.packed.disjoint
  fresh := by
    refine ⟨fun hstorage => ?_, husers.fresh⟩
    have hcount := husers.allocatedCount
    rw [hstorage] at hcount
    exact List.length_eq_zero_iff.mp hcount.symm

theorem stepKeeps (husers : users.WellFormed buf) {label : StorageLabel}
    (hstep : StorageUsers.step buf users label = some after) : StepKeeps users label after := by
  cases label with
  | allocate request upstream =>
    unfold StorageUsers.step StorageUsers.allocate at hstep
    cases halign : align request.type.alignof (request.type.sizeof * request.n) users.storage.ptr users.storage.size with
    | some found =>
      obtain ⟨ptr, rest⟩ := found
      obtain ⟨-, hle, -, -⟩ := align_spec request.type.alignof_pos halign
      simp only [allocate_of_room halign, Option.some.injEq] at hstep
      cases hstep
      refine ⟨fun hlt => ?_, ?_⟩
      · simp only at hlt
        omega
      · rintro _ _ heq hnone
        cases heq
        simp [allocate_of_room halign] at hnone
    | none =>
      have hsame : after.storage = users.storage ∧ after.blocks = users.blocks := by
        simp only [allocate_of_no_room halign] at hstep
        cases upstream with
        | none =>
          cases hstep
          exact ⟨rfl, rfl⟩
        | some ptr =>
          simp only [Option.ite_none_left_eq_some, Option.some.injEq] at hstep
          obtain ⟨-, rfl⟩ := hstep
          exact ⟨rfl, rfl⟩
      exact ⟨fun hlt => by rw [hsame.1] at hlt; omega, fun _ _ _ _ => hsame⟩
  | deallocate i =>
    refine ⟨fun hlt => ?_, nofun⟩
    obtain ⟨block, hblock, rfl⟩ := Option.map_eq_some_iff.mp hstep
    obtain ⟨hi, rfl⟩ := List.getElem?_eq_some_iff.mp hblock
    simp only [StorageUsers.deallocate, if_pos (husers.isAllocatedFromHere (List.getElem_mem hi)),
      husers.storage_deallocate hi] at hlt
    split at hlt
    · assumption
    · exact absurd hlt (lt_irrefl _)
  | deallocateUpstream i =>
    obtain ⟨-, hstorage, -⟩ := husers.deallocateUpstream hstep
    exact ⟨fun hlt => by rw [hstorage] at hlt; omega, nofun⟩

end WellFormed

/-- A storage is a correct arena, whatever its users allocate and give back. -/
theorem run_separate (buf : Buf) {labels : List StorageLabel} {users : StorageUsers}
    (hrun : Machine.run (step buf) (start buf) labels = some users) :
    users.Separate buf ∧ ∀ label after, step buf users label = some after → StepKeeps users label after := by
  have husers : users.WellFormed buf :=
    Machine.run_preserves (fun before label after hstep hbefore => hbefore.step hstep) hrun wellFormed_start
  exact ⟨husers.separate, fun label after hstep => husers.stepKeeps hstep⟩

/-- Ints in a storage for four of them: two blocks are live, one was given back, and the last is the upstream
    allocator's. -/
theorem run_separate_ints :
    let int : ObjectType := { sizeof := 4, alignof := 4 }
    let buf : Buf := { data := 4098, size := 16 }
    let ints (n : Nat) (hn : 0 < n ∧ n < 100) : Request := ⟨int, n, hn.1, by show 4 * n < 2 ^ 64; omega⟩
    ∃ users, Machine.run (step buf) (start buf)
        [.allocate (ints 1 (by decide)) none, .allocate (ints 1 (by decide)) none, .deallocate 1,
          .allocate (ints 1 (by decide)) none, .allocate (ints 1 (by decide)) (some 65536)] = some users ∧
      users.blocks.map Block.ptr = [4108, 4104] ∧
      users.Separate buf ∧ ∀ label after, step buf users label = some after → StepKeeps users label after := by
  intro int buf ints
  have hptrs : (Machine.run (step buf) (start buf)
      [.allocate (ints 1 (by decide)) none, .allocate (ints 1 (by decide)) none, .deallocate 1,
        .allocate (ints 1 (by decide)) none, .allocate (ints 1 (by decide)) (some 65536)]).map
      (fun users => users.blocks.map Block.ptr) = some [4108, 4104] := by decide +kernel
  obtain ⟨users, hrun, hblocks⟩ := Option.map_eq_some_iff.mp hptrs
  exact ⟨users, hrun, hblocks, run_separate buf hrun⟩

end StorageUsers

end cpv
