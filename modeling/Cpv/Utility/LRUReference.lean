import Cpv.Core.Recency
import Cpv.Core.Transducer
import Cpv.Utility.LRUCache

/-- A call on a cache. -/
inductive LRUOperation (Key Value : Type)
  | set (key : Key) (value : Value)
  | get (key : Key)
  | erase (key : Key)
  | clear

/-- What a call returns. -/
inductive LRUResult (Value : Type)
  | done
  | value (found : Option Value)
  | existed (found : Bool)

/-- The reference of a cache: one list of entries, the last used first. -/
structure LRUReference (Key Value : Type) where
  entries : List (Key × Value) := []
  maxSize : Nat

namespace LRUReference

variable {Key Value : Type} [DecidableEq Key]

/-- The entry of a key moves to the front, and the last entry goes when there are too many. -/
def set (reference : LRUReference Key Value) (key : Key) (value : Value) : LRUReference Key Value :=
  let entries := (key, value) :: reference.entries.filter (·.1 ≠ key)
  { reference with entries := if reference.maxSize < entries.length then entries.dropLast else entries }

/-- A found entry moves to the front. -/
def get (reference : LRUReference Key Value) (key : Key) : Option Value × LRUReference Key Value :=
  match reference.entries.find? (·.1 = key) with
  | some entry => (some entry.2, { reference with entries := entry :: reference.entries.filter (·.1 ≠ key) })
  | none => (none, reference)

def erase (reference : LRUReference Key Value) (key : Key) : Bool × LRUReference Key Value :=
  (reference.entries.any (·.1 = key), { reference with entries := reference.entries.filter (·.1 ≠ key) })

def clear (reference : LRUReference Key Value) : LRUReference Key Value := { reference with entries := [] }

def apply (reference : LRUReference Key Value) : LRUOperation Key Value → LRUResult Value × LRUReference Key Value
  | .set key value => (.done, reference.set key value)
  | .get key => ((reference.get key).1 |> .value, (reference.get key).2)
  | .erase key => ((reference.erase key).1 |> .existed, (reference.erase key).2)
  | .clear => (.done, reference.clear)

end LRUReference

namespace LRUCache

variable {Key Value : Type} [DecidableEq Key]

def apply (cache : LRUCache Key Value) : LRUOperation Key Value → LRUResult Value × LRUCache Key Value
  | .set key value => (.done, cache.set key value)
  | .get key => ((cache.get key).1 |> .value, (cache.get key).2)
  | .erase key => ((cache.erase key).1 |> .existed, (cache.erase key).2)
  | .clear => (.done, cache.clear)

/-- The keys and values of the list, without the iterators. -/
def reference (cache : LRUCache Key Value) : LRUReference Key Value :=
  { entries := cache.list.map fun node => (node.key, node.value), maxSize := cache.maxSize }

namespace WellFormed

variable {cache : LRUCache Key Value}

theorem lookup_eq_none_iff (hcache : cache.WellFormed) {key : Key} :
    cache.map.lookup key = none ↔ ∀ node ∈ cache.list, node.key ≠ key := by
  rw [AList.lookup_eq_none, hcache.mem_keys_iff, List.mem_map]
  constructor
  · intro hnot node hnode heq
    exact hnot ⟨node, hnode, heq⟩
  · rintro hne ⟨node, hnode, heq⟩
    exact hne node hnode heq

theorem iterator_eq_iff (hcache : cache.WellFormed) {node other : LRUNode Key Value} (hnode : node ∈ cache.list)
    (hother : other ∈ cache.list) : other.iterator = node.iterator ↔ other.key = node.key := by
  constructor
  · intro heq
    rw [hcache.node_eq hother hnode heq]
  · intro heq
    rw [hcache.node_eq_of_key hother hnode heq]

/-- Removing the node of a key by its iterator leaves the nodes of the other keys. -/
theorem filter_iterator (hcache : cache.WellFormed) {node : LRUNode Key Value} (hnode : node ∈ cache.list) :
    (cache.list.filter fun other => other.iterator ≠ node.iterator) =
      cache.list.filter fun other => other.key ≠ node.key :=
  List.filter_congr fun other hother => by simp only [ne_eq, hcache.iterator_eq_iff hnode hother]

theorem reference_eraseNode (hcache : cache.WellFormed) {node : LRUNode Key Value} (hnode : node ∈ cache.list) :
    (cache.eraseNode node.key node.iterator).reference =
      { cache.reference with entries := cache.reference.entries.filter (·.1 ≠ node.key) } := by
  simp only [LRUCache.reference, LRUCache.eraseNode, hcache.filter_iterator hnode, List.filter_map]
  rfl

theorem reference_trim (hcache : cache.WellFormed) :
    cache.trim.reference = { cache.reference with
      entries := if cache.maxSize < cache.reference.entries.length then cache.reference.entries.dropLast
        else cache.reference.entries } := by
  have hsize := hcache.size_eq
  rw [size] at hsize
  have hlength : cache.reference.entries.length = cache.list.length := by
    rw [LRUCache.reference, List.length_map]
  rw [LRUCache.trim, hsize, hlength]
  split
  · rename_i hover
    have hne : cache.list ≠ [] := List.length_pos_iff.mp (by omega)
    rw [List.getLast?_eq_some_getLast hne]
    simp [LRUCache.reference]
  · rfl

/-- A new node in front, as part of `set`. -/
theorem reference_push (hcache : cache.WellFormed) {key : Key} (hkey : cache.map.lookup key = none) (value : Value) :
    (LRUCache.trim { cache with
      list := { iterator := cache.nextIterator, key, value } :: cache.list
      map := cache.map.insert key cache.nextIterator
      nextIterator := cache.nextIterator + 1 }).reference =
      { cache.reference with
        entries := if cache.maxSize < ((key, value) :: cache.reference.entries).length then
          ((key, value) :: cache.reference.entries).dropLast else (key, value) :: cache.reference.entries } :=
  (hcache.push hkey value).reference_trim

theorem reference_set (hcache : cache.WellFormed) (key : Key) (value : Value) :
    (cache.set key value).reference = cache.reference.set key value := by
  unfold LRUCache.set LRUReference.set
  cases hlookup : cache.map.lookup key with
  | none =>
    have hkept : cache.reference.entries.filter (·.1 ≠ key) = cache.reference.entries := by
      refine List.filter_eq_self.mpr fun entry hentry => decide_eq_true ?_
      obtain ⟨node, hnode, rfl⟩ := List.mem_map.mp hentry
      exact hcache.lookup_eq_none_iff.mp hlookup node hnode
    simp only [hkept]
    exact hcache.reference_push hlookup value
  | some iterator =>
    obtain ⟨node, hnode, rfl, rfl⟩ := (hcache.lookup_iff key iterator).mp hlookup
    have hpush := (hcache.eraseNode hnode).reference_push (AList.lookup_erase _ _) value
    rw [hcache.reference_eraseNode hnode] at hpush
    exact hpush

theorem find?_reference (hcache : cache.WellFormed) (key : Key) :
    ((cache.map.lookup key).bind fun iterator => cache.list.find? (·.iterator = iterator)) =
      cache.list.find? (·.key = key) := by
  cases hlookup : cache.map.lookup key with
  | none =>
    have hne := hcache.lookup_eq_none_iff.mp hlookup
    exact (List.find?_eq_none.mpr (by simpa using hne)).symm
  | some iterator =>
    obtain ⟨node, hnode, rfl, rfl⟩ := (hcache.lookup_iff key iterator).mp hlookup
    rw [Option.bind_some, ← List.head?_filter, ← List.head?_filter]
    congr 1
    exact List.filter_congr fun other hother => by simp only [hcache.iterator_eq_iff hnode hother]

theorem reference_get (hcache : cache.WellFormed) (key : Key) :
    (cache.get key).1 = (cache.reference.get key).1 ∧
      (cache.get key).2.reference = (cache.reference.get key).2 := by
  unfold LRUCache.get LRUReference.get
  have hfound : cache.reference.entries.find? (·.1 = key) =
      (cache.list.find? (·.key = key)).map fun node => (node.key, node.value) := List.find?_map
  rw [hcache.find?_reference, hfound]
  cases hfind : cache.list.find? (·.key = key) with
  | none => exact ⟨rfl, rfl⟩
  | some node =>
    have hnode := List.mem_of_find?_eq_some hfind
    obtain rfl : node.key = key := by simpa using List.find?_some hfind
    refine ⟨rfl, ?_⟩
    simp only [LRUCache.reference, hcache.filter_iterator hnode, List.filter_map, List.map_cons, Option.map_some]
    rfl

theorem reference_erase (hcache : cache.WellFormed) (key : Key) :
    (cache.erase key).1 = (cache.reference.erase key).1 ∧
      (cache.erase key).2.reference = (cache.reference.erase key).2 := by
  unfold LRUCache.erase LRUReference.erase
  cases hlookup : cache.map.lookup key with
  | none =>
    have hne := hcache.lookup_eq_none_iff.mp hlookup
    have hkept : cache.reference.entries.filter (·.1 ≠ key) = cache.reference.entries := by
      refine List.filter_eq_self.mpr fun entry hentry => decide_eq_true ?_
      obtain ⟨node, hnode, rfl⟩ := List.mem_map.mp hentry
      exact hne node hnode
    rw [hkept]
    refine ⟨(List.any_eq_false.mpr fun entry hentry => ?_).symm, rfl⟩
    obtain ⟨node, hnode, rfl⟩ := List.mem_map.mp hentry
    simpa using hne node hnode
  | some iterator =>
    obtain ⟨node, hnode, rfl, rfl⟩ := (hcache.lookup_iff key iterator).mp hlookup
    refine ⟨(List.any_eq_true.mpr ⟨_, List.mem_map_of_mem hnode, by simp⟩).symm, ?_⟩
    exact hcache.reference_eraseNode hnode

theorem reference_apply (hcache : cache.WellFormed) (operation : LRUOperation Key Value) :
    (cache.apply operation).1 = (cache.reference.apply operation).1 ∧
      (cache.apply operation).2.WellFormed ∧
      (cache.apply operation).2.reference = (cache.reference.apply operation).2 := by
  cases operation with
  | set key value => exact ⟨rfl, hcache.set key value, hcache.reference_set key value⟩
  | get key =>
    obtain ⟨hvalue, hreference⟩ := hcache.reference_get key
    exact ⟨congrArg LRUResult.value hvalue, hcache.get key, hreference⟩
  | erase key =>
    obtain ⟨hexisted, hreference⟩ := hcache.reference_erase key
    exact ⟨congrArg LRUResult.existed hexisted, hcache.erase key, hreference⟩
  | clear => exact ⟨rfl, clear cache, rfl⟩

end WellFormed

/-- The results of calls on a new cache, and the cache they leave. -/
def run (maxSize : Nat) (operations : List (LRUOperation Key Value)) : List (LRUResult Value) × LRUCache Key Value :=
  Transducer.run apply { maxSize } operations

end LRUCache

namespace LRUReference

variable {Key Value : Type} [DecidableEq Key]

def run (maxSize : Nat) (operations : List (LRUOperation Key Value)) :
    List (LRUResult Value) × LRUReference Key Value :=
  Transducer.run apply { maxSize } operations

/-- There are never too many entries. -/
def Bounded (maxSize : Nat) (reference : LRUReference Key Value) : Prop :=
  reference.maxSize = maxSize ∧ reference.entries.length ≤ maxSize

variable {maxSize : Nat} {reference : LRUReference Key Value}

namespace Bounded

/-- The last entry goes exactly when there is one entry too many. -/
theorem entries_set (hbounded : reference.Bounded maxSize) (key : Key) (value : Value) :
    (reference.set key value).entries =
      ((key, value) :: reference.entries.filter (·.1 ≠ key)).take maxSize := by
  have hlength : (reference.entries.filter (·.1 ≠ key)).length ≤ maxSize :=
    (List.length_filter_le _ _).trans hbounded.2
  unfold set
  dsimp only
  rw [hbounded.1]
  split
  · rename_i hover
    rw [List.length_cons] at hover
    rw [List.dropLast_eq_take, List.length_cons, show (reference.entries.filter (·.1 ≠ key)).length + 1 - 1 = maxSize by omega]
  · rename_i hroom
    exact (List.take_of_length_le (by omega)).symm

theorem apply (hbounded : reference.Bounded maxSize) (operation : LRUOperation Key Value) :
    (reference.apply operation).2.Bounded maxSize := by
  cases operation with
  | set key value =>
    refine ⟨hbounded.1, ?_⟩
    show (reference.set key value).entries.length ≤ maxSize
    rw [hbounded.entries_set, List.length_take]
    exact Nat.min_le_left _ _
  | get key =>
    show (reference.get key).2.Bounded maxSize
    unfold get
    cases hfind : reference.entries.find? (·.1 = key) with
    | none => exact hbounded
    | some entry =>
      have hmem := List.mem_of_find?_eq_some hfind
      have hkey : entry.1 = key := by simpa using List.find?_some hfind
      have hfewer : (reference.entries.filter (·.1 ≠ key)).length < reference.entries.length :=
        List.length_filter_lt_length_iff_exists.mpr ⟨entry, hmem, by simp [hkey]⟩
      exact ⟨hbounded.1, Nat.le_trans hfewer hbounded.2⟩
  | erase key => exact ⟨hbounded.1, (List.length_filter_le _ _).trans hbounded.2⟩
  | clear => exact ⟨hbounded.1, Nat.zero_le _⟩

end Bounded

theorem run_bounded (maxSize : Nat) (operations : List (LRUOperation Key Value)) :
    (run maxSize operations).2.Bounded maxSize :=
  Transducer.run_preserves (fun _ operation hbounded => hbounded.apply operation) ⟨rfl, Nat.zero_le _⟩ operations

end LRUReference

namespace LRUCache

variable {Key Value : Type} [DecidableEq Key]

/-- Whatever the calls, a cache answers as the reference does. -/
theorem run_reference (maxSize : Nat) (operations : List (LRUOperation Key Value)) :
    (run maxSize operations).1 = (LRUReference.run maxSize operations).1 ∧
      (run maxSize operations).2.WellFormed ∧
      (run maxSize operations).2.reference = (LRUReference.run maxSize operations).2 := by
  refine Transducer.run_simulates
    (R := fun (cache : LRUCache Key Value) reference => cache.WellFormed ∧ cache.reference = reference) ?_
    ⟨WellFormed.new maxSize, rfl⟩ operations
  rintro cache _ operation ⟨hcache, rfl⟩
  exact hcache.reference_apply operation

end LRUCache
