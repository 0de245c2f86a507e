import Cpv.Utility.LRUReference

/-- A call that removes nothing by itself. -/
def LRUOperation.Keeps {Key Value : Type} : LRUOperation Key Value → Prop
  | .set _ _ | .get _ => True
  | .erase _ | .clear => False

namespace LRUCache

variable {Key Value : Type} [DecidableEq Key]

/-- The key that a call sets or reads successfully. -/
def used (cache : LRUCache Key Value) : LRUOperation Key Value → Option Key
  | .set key _ => some key
  | .get key => if (cache.get key).1.isSome then some key else none
  | .erase _ | .clear => none

/-- The keys that are set or read successfully one after the other, the last one first. -/
def uses : LRUCache Key Value → List (LRUOperation Key Value) → List Key
  | _, [] => []
  | cache, operation :: operations => uses (cache.apply operation).2 operations ++ (cache.used operation).toList

/-- The value that was last set for a key. -/
def lastSet (key : Key) (operations : List (LRUOperation Key Value)) : Option Value :=
  operations.reverse.findSome? fun
    | .set other value => if other = key then some value else none
    | _ => none

/-- The other keys that were set or read successfully after a key was for the last time. -/
def usedSince (maxSize : Nat) (operations : List (LRUOperation Key Value)) (key : Key) : Finset Key :=
  ((uses { maxSize } operations).takeWhile (· ≠ key)).toFinset

variable {maxSize : Nat} {operations : List (LRUOperation Key Value)}

theorem uses_concat (cache : LRUCache Key Value) (operation : LRUOperation Key Value) :
    uses cache (operations ++ [operation]) =
      ((Transducer.run apply cache operations).2.used operation).toList ++ uses cache operations := by
  induction operations generalizing cache with
  | nil => simp [uses]
  | cons first operations ih => rw [List.cons_append, uses, ih, uses, List.append_assoc, Transducer.run_cons]

theorem lastSet_concat_set (key other : Key) (value : Value) :
    lastSet key (operations ++ [.set other value]) = if other = key then some value else lastSet key operations := by
  by_cases heq : other = key <;> simp [lastSet, heq]

theorem lastSet_concat_get (key other : Key) :
    lastSet key (operations ++ [.get other]) = lastSet key operations := by
  simp [lastSet]

/-- Only keys that were set have a value that was last set. -/
theorem mem_uses_of_lastSet {cache : LRUCache Key Value} {key : Key} {value : Value}
    (hlast : lastSet key operations = some value) : key ∈ uses cache operations := by
  induction operations using List.reverseRecOn with
  | nil => simp [lastSet] at hlast
  | append_singleton operations operation ih =>
    rw [uses_concat, List.mem_append]
    cases operation with
    | set other _ =>
      rw [lastSet_concat_set] at hlast
      split at hlast
      · rename_i heq
        exact .inl (by simp [used, heq])
      · exact .inr (ih hlast)
    | _ => exact .inr (ih (by simpa [lastSet] using hlast))

/-- What is kept after a history without removals: the keys that were used last, with the values that were set last. -/
structure Remembers (maxSize : Nat) (operations : List (LRUOperation Key Value)) (reference : LRUReference Key Value) :
    Prop where
  bounded : reference.Bounded maxSize
  keys : reference.entries.map (·.1) = (Recency.recent (uses { maxSize } operations)).take maxSize
  values : ∀ entry ∈ reference.entries, lastSet entry.1 operations = some entry.2

namespace Remembers

variable {reference : LRUReference Key Value}

theorem set (hreference : Remembers maxSize operations reference) (key : Key) (value : Value) :
    Remembers maxSize (operations ++ [.set key value]) (reference.set key value) := by
  refine ⟨hreference.bounded.apply (.set key value), ?_, ?_⟩
  · rw [hreference.bounded.entries_set, List.map_take, List.map_cons, uses_concat]
    show _ = (Recency.recent (key :: uses { maxSize } operations)).take maxSize
    rw [Recency.take_recent_cons, ← hreference.keys, List.filter_map]
    rfl
  · intro entry hentry
    rw [hreference.bounded.entries_set] at hentry
    rw [lastSet_concat_set]
    rcases List.mem_cons.mp (List.mem_of_mem_take hentry) with rfl | hold
    · exact if_pos rfl
    · obtain ⟨hold, hne⟩ := List.mem_filter.mp hold
      rw [if_neg (Ne.symm (of_decide_eq_true hne))]
      exact hreference.values entry hold

/-- A key that is found is among those that are kept, so moving it to the front drops none of them. -/
theorem get (hreference : Remembers maxSize operations reference) {key : Key}
    (hcache : (run maxSize operations).2.reference = reference) (hwellFormed : (run maxSize operations).2.WellFormed) :
    Remembers maxSize (operations ++ [.get key]) (reference.get key).2 := by
  have hused := (hwellFormed.reference_get key).1
  rw [hcache] at hused
  refine ⟨hreference.bounded.apply (.get key), ?_, ?_⟩
  · rw [uses_concat]
    show (reference.get key).2.entries.map _ =
      (Recency.recent ((if (((run maxSize operations).2.get key).1).isSome then some key else none).toList ++
        uses { maxSize } operations)).take maxSize
    rw [hused]
    have hbounded := hreference.bounded.apply (.get key)
    simp only [LRUReference.apply] at hbounded
    unfold LRUReference.get at hbounded ⊢
    cases hfind : reference.entries.find? (·.1 = key) with
    | none => simpa using hreference.keys
    | some entry =>
      have hkey : entry.1 = key := by simpa using List.find?_some hfind
      rw [hfind] at hbounded
      have hroom := hbounded.2
      simp only [Option.isSome_some, if_true, Option.toList_some, List.singleton_append, Recency.take_recent_cons,
        ← hreference.keys, List.filter_map]
      rw [List.take_of_length_le (by simpa [Function.comp_def] using hroom), List.map_cons, hkey]
      rfl
  · intro entry hentry
    rw [lastSet_concat_get]
    unfold LRUReference.get at hentry
    cases hfind : reference.entries.find? (·.1 = key) with
    | none =>
      rw [hfind] at hentry
      exact hreference.values entry hentry
    | some found =>
      rw [hfind] at hentry
      rcases List.mem_cons.mp hentry with rfl | hold
      · exact hreference.values entry (List.mem_of_find?_eq_some hfind)
      · exact hreference.values entry (List.mem_of_mem_filter hold)

end Remembers

theorem run_remembers (hoperations : ∀ operation ∈ operations, operation.Keeps) :
    Remembers maxSize operations (LRUReference.run maxSize operations).2 := by
  induction operations using List.reverseRecOn with
  | nil => exact ⟨⟨rfl, Nat.zero_le _⟩, by simp [LRUReference.run, uses, Recency.recent], fun _ hentry => nomatch hentry⟩
  | append_singleton operations operation ih =>
    have hbefore := ih fun other hother => hoperations other (List.mem_append_left _ hother)
    obtain ⟨-, hwellFormed, hreference⟩ := run_reference maxSize operations
    rw [LRUReference.run, Transducer.run_concat]
    cases operation with
    | set key value => exact hbefore.set key value
    | get key => exact hbefore.get hreference hwellFormed
    | erase key => exact (hoperations (.erase key) (by simp)).elim
    | clear => exact (hoperations .clear (by simp)).elim

/-- What is kept is what was used last. -/
theorem Remembers.get_eq_some_iff {reference : LRUReference Key Value} (hreference : Remembers maxSize operations reference)
    {key : Key} {value : Value} :
    (reference.get key).1 = some value ↔
      lastSet key operations = some value ∧ (usedSince maxSize operations key).card < maxSize := by
  have hkept : key ∈ reference.entries.map (·.1) ↔
      key ∈ uses { maxSize } operations ∧ (usedSince maxSize operations key).card < maxSize := by
    rw [hreference.keys, Recency.mem_take_recent_iff, usedSince]
  have hget : (reference.get key).1 = (reference.entries.find? (·.1 = key)).map (·.2) := by
    unfold LRUReference.get
    cases reference.entries.find? (·.1 = key) <;> rfl
  rw [hget, Option.map_eq_some_iff]
  constructor
  · rintro ⟨entry, hfind, rfl⟩
    have hentry := List.mem_of_find?_eq_some hfind
    obtain rfl : entry.1 = key := by simpa using List.find?_some hfind
    exact ⟨hreference.values entry hentry, (hkept.mp (List.mem_map_of_mem hentry)).2⟩
  · rintro ⟨hlast, hcard⟩
    obtain ⟨entry, hentry, rfl⟩ := List.mem_map.mp (hkept.mpr ⟨mem_uses_of_lastSet hlast, hcard⟩)
    obtain ⟨found, hfind⟩ : ∃ found, reference.entries.find? (·.1 = entry.1) = some found :=
      Option.isSome_iff_exists.mp (List.find?_isSome.mpr ⟨entry, hentry, by simp⟩)
    have hkey : found.1 = entry.1 := by simpa using List.find?_some hfind
    have hvalue := hreference.values found (List.mem_of_find?_eq_some hfind)
    rw [hkey, hlast] at hvalue
    exact ⟨found, hfind, (Option.some.inj hvalue).symm⟩

/-- A cache is the reference of the last used entries. In a history without removals it has a value exactly when it was
    the last one set for its key, and fewer other keys than there is room for were used after the key was. -/
theorem run_refines_reference (maxSize : Nat) (operations : List (LRUOperation Key Value)) :
    let (results, cache) := run maxSize operations
    let (expected, reference) := LRUReference.run maxSize operations
    (cache.list.map (·.key)).Nodup ∧ (cache.list.map (·.iterator)).Nodup ∧
      (∀ key iterator, cache.map.lookup key = some iterator ↔
        ∃ node ∈ cache.list, node.key = key ∧ node.iterator = iterator) ∧
      cache.size ≤ maxSize ∧ cache.size = reference.entries.length ∧
      (cache.list.map fun node => (node.key, node.value)) = reference.entries ∧ results = expected ∧
      ((∀ operation ∈ operations, operation.Keeps) → ∀ key value,
        (cache.get key).1 = some value ↔
          lastSet key operations = some value ∧ (usedSince maxSize operations key).card < maxSize) := by
  obtain ⟨hresults, hcache, hreference⟩ := run_reference maxSize operations
  have hbounded := LRUReference.run_bounded maxSize operations
  have hentries := congrArg LRUReference.entries hreference
  have hsize : (run maxSize operations).2.size = (LRUReference.run maxSize operations).2.entries.length := by
    rw [hcache.size_eq, ← hentries, reference, List.length_map]
  refine ⟨hcache.nodup_keys, hcache.nodup, hcache.lookup_iff, hsize ▸ hbounded.2, hsize, hentries, hresults, ?_⟩
  intro hoperations key value
  show ((run maxSize operations).2.get key).1 = some value ↔ _
  rw [(hcache.reference_get key).1, hreference]
  exact (run_remembers hoperations).get_eq_some_iff

end LRUCache
