import Mathlib.Data.List.AList
import Mathlib.Data.List.Nodup

/-- A node of the list of a cache. Iterators of a list stay valid while other
    nodes are added, moved or removed: a node keeps its number. -/
structure LRUNode (Key Value : Type) where
  iterator : Nat
  key : Key
  value : Value

/-- A cache type that keeps up to given number of least recently used values:
    the list of its values, the last used first, and the map from keys to
    iterators of the list. -/
structure LRUCache (Key Value : Type) where
  list : List (LRUNode Key Value) := []
  map : AList fun _ : Key => Nat := ∅
  maxSize : Nat
  nextIterator : Nat := 0

namespace LRUCache

variable {Key Value : Type} [DecidableEq Key]

/-- Remove a node from the list and a key from the map -/
def eraseNode (cache : LRUCache Key Value) (key : Key) (iterator : Nat) : LRUCache Key Value :=
  { cache with
    list := cache.list.filter fun node => node.iterator ≠ iterator
    map := cache.map.erase key }

/-- Remove finally not used value if size is over -/
def trim (cache : LRUCache Key Value) : LRUCache Key Value :=
  if cache.maxSize < cache.map.entries.length then
    match cache.list.getLast? with
    | some node => { cache with map := cache.map.erase node.key, list := cache.list.dropLast }
    | none => cache
  else cache

/-- Associate value with key, remove finally not used value if size is over -/
def set (cache : LRUCache Key Value) (key : Key) (value : Value) : LRUCache Key Value :=
  let cache := match cache.map.lookup key with
    | some iterator => cache.eraseNode key iterator
    | none => cache
  trim { cache with
    list := { iterator := cache.nextIterator, key, value } :: cache.list
    map := cache.map.insert key cache.nextIterator
    nextIterator := cache.nextIterator + 1 }

/-- Get the value associated with key, which becomes the last used one -/
def get (cache : LRUCache Key Value) (key : Key) : Option Value × LRUCache Key Value :=
  match (cache.map.lookup key).bind fun iterator => cache.list.find? (·.iterator = iterator) with
  | some node =>
    (some node.value, { cache with list := node :: cache.list.filter (·.iterator ≠ node.iterator) })
  | none => (none, cache)

/-- Erase value associated with key, return whether key was exists -/
def erase (cache : LRUCache Key Value) (key : Key) : Bool × LRUCache Key Value :=
  match cache.map.lookup key with
  | some iterator => (true, cache.eraseNode key iterator)
  | none => (false, cache)

/-- Erase all values in cache -/
def clear (cache : LRUCache Key Value) : LRUCache Key Value := { cache with list := [], map := ∅ }

/-- Get the number of values in cache -/
def size (cache : LRUCache Key Value) : Nat := cache.map.entries.length

/-- The map and the list agree about keys and iterators. -/
structure WellFormed (cache : LRUCache Key Value) : Prop where
  nodup : (cache.list.map (·.iterator)).Nodup
  lookup_iff : ∀ key iterator, cache.map.lookup key = some iterator ↔
    ∃ node ∈ cache.list, node.key = key ∧ node.iterator = iterator
  fresh : ∀ node ∈ cache.list, node.iterator < cache.nextIterator

namespace WellFormed

variable {cache : LRUCache Key Value}

theorem new (maxSize : Nat) : ({ maxSize } : LRUCache Key Value).WellFormed := by
  refine ⟨List.nodup_nil, ?_, ?_⟩
  · intro key iterator
    simp
  · intro node hnode
    cases hnode

/-- Nodes with one iterator are one node. -/
theorem node_eq (hcache : cache.WellFormed) {node other : LRUNode Key Value} (hnode : node ∈ cache.list)
    (hother : other ∈ cache.list) (heq : node.iterator = other.iterator) : node = other :=
  List.inj_on_of_nodup_map hcache.nodup hnode hother heq

theorem eraseNode (hcache : cache.WellFormed) {node : LRUNode Key Value} (hnode : node ∈ cache.list) :
    (cache.eraseNode node.key node.iterator).WellFormed := by
  refine ⟨?_, ?_, ?_⟩
  · exact hcache.nodup.sublist (List.filter_sublist.map _)
  · intro key iterator
    simp only [LRUCache.eraseNode, List.mem_filter, decide_eq_true_eq]
    by_cases hkey : key = node.key
    · subst hkey
      rw [AList.lookup_erase]
      constructor
      · intro hnone
        cases hnone
      · rintro ⟨other, ⟨hother, hne⟩, hkey, -⟩
        have hsame := (hcache.lookup_iff node.key other.iterator).mpr ⟨other, hother, hkey, rfl⟩
        rw [(hcache.lookup_iff node.key node.iterator).mpr ⟨node, hnode, rfl, rfl⟩] at hsame
        exact absurd (Option.some.inj hsame).symm hne
    · rw [AList.lookup_erase_ne hkey, hcache.lookup_iff]
      constructor
      · rintro ⟨other, hother, rfl, rfl⟩
        refine ⟨other, ⟨hother, fun heq => hkey ?_⟩, rfl, rfl⟩
        rw [hcache.node_eq hother hnode heq]
      · rintro ⟨other, ⟨hother, -⟩, hkey, hiterator⟩
        exact ⟨other, hother, hkey, hiterator⟩
  · intro other hother
    exact hcache.fresh other (List.mem_of_mem_filter hother)

/-- The last node is the one with its iterator. -/
theorem dropLast_eq (hcache : cache.WellFormed) {node : LRUNode Key Value}
    (hlast : cache.list.getLast? = some node) :
    cache.list.dropLast = cache.list.filter fun other => other.iterator ≠ node.iterator := by
  obtain ⟨others, hlist⟩ := List.getLast?_eq_some_iff.mp hlast
  have hnodup := hcache.nodup
  rw [hlist, List.map_append, List.nodup_append] at hnodup
  have hne : ∀ other ∈ others, other.iterator ≠ node.iterator := by
    intro other hother
    exact hnodup.2.2 _ (List.mem_map_of_mem hother) _ (by simp)
  rw [hlist, List.dropLast_concat, List.filter_append, List.filter_eq_self.mpr (by simpa using hne)]
  simp

theorem trim (hcache : cache.WellFormed) : cache.trim.WellFormed := by
  unfold LRUCache.trim
  split
  · split
    · rename_i node hlast
      have herased := hcache.eraseNode (List.mem_of_getLast? hlast)
      rw [LRUCache.eraseNode, ← hcache.dropLast_eq hlast] at herased
      exact herased
    · exact hcache
  · exact hcache

/-- A new node for a key that the cache does not have. -/
theorem push (hcache : cache.WellFormed) {key : Key} (hkey : cache.map.lookup key = none) (value : Value) :
    WellFormed { cache with
      list := { iterator := cache.nextIterator, key, value } :: cache.list
      map := cache.map.insert key cache.nextIterator
      nextIterator := cache.nextIterator + 1 } := by
  refine ⟨?_, ?_, ?_⟩
  · rw [List.map_cons, List.nodup_cons]
    refine ⟨fun hmem => ?_, hcache.nodup⟩
    obtain ⟨node, hnode, heq⟩ := List.mem_map.mp hmem
    have hfresh := hcache.fresh node hnode
    simp only at heq
    omega
  · intro other iterator
    simp only [List.mem_cons, exists_eq_or_imp]
    by_cases hother : other = key
    · subst hother
      rw [AList.lookup_insert, Option.some.injEq]
      constructor
      · intro heq
        exact .inl ⟨rfl, heq⟩
      · rintro (⟨-, heq⟩ | hold)
        · exact heq
        · rw [← hcache.lookup_iff, hkey] at hold
          cases hold
    · rw [AList.lookup_insert_ne hother, hcache.lookup_iff]
      constructor
      · exact .inr
      · rintro (⟨heq, -⟩ | hold)
        · exact absurd heq.symm hother
        · exact hold
  · intro node hnode
    obtain rfl | hnode := List.mem_cons.mp hnode
    · exact Nat.lt_succ_self _
    · exact Nat.lt_succ_of_lt (hcache.fresh node hnode)

theorem set (hcache : cache.WellFormed) (key : Key) (value : Value) : (cache.set key value).WellFormed := by
  unfold LRUCache.set
  cases hlookup : cache.map.lookup key with
  | none => exact (hcache.push hlookup value).trim
  | some iterator =>
    obtain ⟨node, hnode, rfl, rfl⟩ := (hcache.lookup_iff key iterator).mp hlookup
    exact ((hcache.eraseNode hnode).push (AList.lookup_erase _ _) value).trim

/-- What a successful lookup does: it returns the value of the key's node and
    moves the node to the front. -/
theorem get_spec (hcache : cache.WellFormed) {key : Key} {value : Value} {after : LRUCache Key Value}
    (hget : cache.get key = (some value, after)) :
    ∃ node ∈ cache.list, node.key = key ∧ node.value = value ∧
      after = { cache with list := node :: cache.list.filter (·.iterator ≠ node.iterator) } := by
  unfold LRUCache.get at hget
  split at hget
  · rename_i node hfound
    obtain ⟨iterator, hlookup, hfind⟩ := Option.bind_eq_some_iff.mp hfound
    have hnode := List.mem_of_find?_eq_some hfind
    have hiterator := List.find?_some hfind
    obtain ⟨other, hother, hkey, heq⟩ := (hcache.lookup_iff key iterator).mp hlookup
    have hsame := hcache.node_eq hother hnode (heq.trans (of_decide_eq_true hiterator).symm)
    obtain ⟨hvalue, rfl⟩ := Prod.mk.inj hget
    exact ⟨node, hnode, hsame ▸ hkey, Option.some.inj hvalue, rfl⟩
  · cases hget

/-- Moving a node to the front keeps the nodes. -/
theorem get_perm {node : LRUNode Key Value} (hcache : cache.WellFormed) (hnode : node ∈ cache.list) :
    (node :: cache.list.filter (·.iterator ≠ node.iterator)).Perm cache.list := by
  have hnodup : cache.list.Nodup := hcache.nodup.of_map _
  refine (List.perm_ext_iff_of_nodup ?_ hnodup).mpr fun other => ?_
  · rw [List.nodup_cons, List.mem_filter]
    exact ⟨fun hmem => of_decide_eq_true hmem.2 rfl, hnodup.filter _⟩
  · rw [List.mem_cons, List.mem_filter, decide_eq_true_eq]
    constructor
    · rintro (rfl | hother)
      · exact hnode
      · exact hother.1
    · intro hother
      by_cases heq : other.iterator = node.iterator
      · exact .inl (hcache.node_eq hother hnode heq)
      · exact .inr ⟨hother, heq⟩

theorem get (hcache : cache.WellFormed) (key : Key) : (cache.get key).2.WellFormed := by
  rcases hget : cache.get key with ⟨_ | value, after⟩
  · unfold LRUCache.get at hget
    split at hget
    · cases hget
    · obtain ⟨-, rfl⟩ := Prod.mk.inj hget
      exact hcache
  · obtain ⟨node, hnode, -, -, rfl⟩ := hcache.get_spec hget
    have hperm := hcache.get_perm hnode
    refine ⟨(hperm.map _).nodup_iff.mpr hcache.nodup, ?_, ?_⟩
    · intro other iterator
      rw [hcache.lookup_iff]
      simp only [hperm.mem_iff]
    · intro other hother
      exact hcache.fresh other (hperm.mem_iff.mp hother)

theorem erase (hcache : cache.WellFormed) (key : Key) : (cache.erase key).2.WellFormed := by
  unfold LRUCache.erase
  cases hlookup : cache.map.lookup key with
  | none => exact hcache
  | some iterator =>
    obtain ⟨node, hnode, rfl, rfl⟩ := (hcache.lookup_iff key iterator).mp hlookup
    exact hcache.eraseNode hnode

theorem clear (cache : LRUCache Key Value) : cache.clear.WellFormed := by
  refine ⟨List.nodup_nil, ?_, ?_⟩
  · intro key iterator
    simp [LRUCache.clear]
  · intro node hnode
    cases hnode

/-- Nodes with one key are one node. -/
theorem node_eq_of_key (hcache : cache.WellFormed) {node other : LRUNode Key Value} (hnode : node ∈ cache.list)
    (hother : other ∈ cache.list) (heq : node.key = other.key) : node = other := by
  have hlookup := (hcache.lookup_iff node.key node.iterator).mpr ⟨node, hnode, rfl, rfl⟩
  rw [heq, (hcache.lookup_iff other.key other.iterator).mpr ⟨other, hother, rfl, rfl⟩] at hlookup
  exact hcache.node_eq hnode hother (Option.some.inj hlookup).symm

theorem nodup_keys (hcache : cache.WellFormed) : (cache.list.map (·.key)).Nodup :=
  hcache.nodup.of_map _ |>.map_on fun _ hnode _ hother => hcache.node_eq_of_key hnode hother

theorem mem_keys_iff (hcache : cache.WellFormed) {key : Key} :
    key ∈ cache.map ↔ key ∈ cache.list.map (·.key) := by
  rw [← AList.lookup_isSome, Option.isSome_iff_exists, List.mem_map]
  simp only [hcache.lookup_iff]
  constructor
  · rintro ⟨_, node, hnode, hkey, -⟩
    exact ⟨node, hnode, hkey⟩
  · rintro ⟨node, hnode, hkey⟩
    exact ⟨node.iterator, node, hnode, hkey, rfl⟩

/-- The map has as many entries as the list has nodes. -/
theorem size_eq (hcache : cache.WellFormed) : cache.size = cache.list.length := by
  have hperm : cache.map.keys.Perm (cache.list.map (·.key)) := by
    refine (List.perm_ext_iff_of_nodup cache.map.keys_nodup hcache.nodup_keys).mpr fun key => ?_
    rw [← AList.mem_keys, hcache.mem_keys_iff]
  have hlength := hperm.length_eq
  rwa [AList.keys, List.length_map, List.keys, List.length_map] at hlength

end WellFormed

/-- A cache whose entries all have a property. -/
structure Holds (cache : LRUCache Key Value) (P : Key → Value → Prop) : Prop extends cache.WellFormed where
  entry : ∀ node ∈ cache.list, P node.key node.value

namespace Holds

variable {cache : LRUCache Key Value} {P : Key → Value → Prop}

theorem new (maxSize : Nat) : ({ maxSize } : LRUCache Key Value).Holds P :=
  { WellFormed.new maxSize with entry := fun _ hnode => nomatch hnode }

/-- An entry that has the property may be put into the cache, whatever it
    replaces or evicts. -/
theorem set (hcache : cache.Holds P) {key : Key} {value : Value} (hvalue : P key value) :
    (cache.set key value).Holds P := by
  refine { hcache.toWellFormed.set key value with entry := ?_ }
  have htrim (cache : LRUCache Key Value) (hentry : ∀ node ∈ cache.list, P node.key node.value) :
      ∀ node ∈ cache.trim.list, P node.key node.value := by
    intro node hnode
    unfold trim at hnode
    split at hnode
    · split at hnode
      · exact hentry node (List.dropLast_subset _ hnode)
      · exact hentry node hnode
    · exact hentry node hnode
  unfold LRUCache.set
  refine htrim _ fun node hnode => ?_
  obtain rfl | hnode := List.mem_cons.mp hnode
  · exact hvalue
  · split at hnode
    · exact hcache.entry node (List.mem_of_mem_filter hnode)
    · exact hcache.entry node hnode

theorem get (hcache : cache.Holds P) (key : Key) : (cache.get key).2.Holds P := by
  refine { hcache.toWellFormed.get key with entry := ?_ }
  rcases hget : cache.get key with ⟨_ | value, after⟩
  · unfold LRUCache.get at hget
    split at hget
    · cases hget
    · obtain ⟨-, rfl⟩ := Prod.mk.inj hget
      exact hcache.entry
  · obtain ⟨node, hnode, -, -, rfl⟩ := hcache.get_spec hget
    intro other hother
    exact hcache.entry other ((hcache.get_perm hnode).mem_iff.mp hother)

/-- What a lookup returns has the property of the key's entry. -/
theorem value (hcache : cache.Holds P) {key : Key} {value : Value} (hget : (cache.get key).1 = some value) :
    P key value := by
  obtain ⟨node, hnode, rfl, rfl, -⟩ :=
    hcache.get_spec (show cache.get key = (some value, (cache.get key).2) from Prod.ext hget rfl)
  exact hcache.entry node hnode

end Holds

@[simp]
theorem get_maxSize (cache : LRUCache Key Value) (key : Key) : (cache.get key).2.maxSize = cache.maxSize := by
  unfold get
  split <;> rfl

@[simp]
theorem set_maxSize (cache : LRUCache Key Value) (key : Key) (value : Value) :
    (cache.set key value).maxSize = cache.maxSize := by
  have htrim (cache : LRUCache Key Value) : cache.trim.maxSize = cache.maxSize := by
    unfold trim
    split
    · split <;> rfl
    · rfl
  rw [set, htrim]
  cases cache.map.lookup key <;> rfl

end LRUCache
