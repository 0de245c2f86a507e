import Mathlib.Data.Finset.Card
import Mathlib.Data.Finset.Dedup
import Mathlib.Data.List.Basic

namespace Recency

variable {α : Type*} [DecidableEq α]

/-- The distinct keys of a list of uses, in the order of their first use in it. Where the uses are listed with the last
    one first, this is the order of the last use. -/
def recent : List α → List α
  | [] => []
  | key :: uses => key :: (recent uses).filter (· ≠ key)

@[simp]
theorem mem_recent {key : α} {uses : List α} : key ∈ recent uses ↔ key ∈ uses := by
  induction uses with
  | nil => rfl
  | cons other uses ih =>
    by_cases heq : key = other
    · simp [recent, heq]
    · simp [recent, heq, ih]

theorem nodup_recent (uses : List α) : (recent uses).Nodup := by
  induction uses with
  | nil => exact List.nodup_nil
  | cons key uses ih => exact List.nodup_cons.mpr ⟨by simp, ih.filter _⟩

theorem length_recent (uses : List α) : (recent uses).length = uses.toFinset.card := by
  rw [← List.toFinset_card_of_nodup (nodup_recent uses)]
  congr 1
  ext key
  simp

/-- A filter that keeps the key does not change what stands in front of it. -/
theorem takeWhile_filter {key : α} {keep : α → Bool} (hkey : keep key) (uses : List α) :
    (uses.filter keep).takeWhile (· ≠ key) = (uses.takeWhile (· ≠ key)).filter keep := by
  induction uses with
  | nil => rfl
  | cons other uses ih =>
    by_cases heq : other = key
    · subst heq
      simp [hkey]
    · by_cases hkeep : keep other = true
      · simpa [heq, hkeep] using ih
      · simpa [heq, hkeep] using ih

/-- In front of a key stand the keys that were used after it. -/
theorem takeWhile_recent (key : α) (uses : List α) :
    (recent uses).takeWhile (· ≠ key) = recent (uses.takeWhile (· ≠ key)) := by
  induction uses with
  | nil => rfl
  | cons other uses ih =>
    by_cases heq : other = key
    · simp [recent, heq]
    · have hfront := @takeWhile_filter _ _ key (· ≠ other) (decide_eq_true (Ne.symm heq)) (recent uses)
      rw [recent, List.takeWhile_cons_of_pos (by simpa using heq), hfront, ih,
        List.takeWhile_cons_of_pos (by simpa using heq), recent]

/-- The first keys are those with few other keys in front of them. -/
theorem mem_take_iff {key : α} {keys : List α} (hkey : key ∈ keys) (count : Nat) :
    key ∈ keys.take count ↔ (keys.takeWhile (· ≠ key)).length < count := by
  induction keys generalizing count with
  | nil => cases hkey
  | cons other keys ih =>
    cases count with
    | zero => simp
    | succ count =>
      by_cases heq : other = key
      · simp [heq]
      · have hmem : key ∈ keys := by
          rcases List.mem_cons.mp hkey with heq' | hmem
          · exact absurd heq'.symm heq
          · exact hmem
        simpa [heq, Ne.symm heq] using ih hmem count

/-- A key is among the first ones when it was used, and since then fewer than that many others. -/
theorem mem_take_recent_iff {key : α} {uses : List α} {count : Nat} :
    key ∈ (recent uses).take count ↔
      key ∈ uses ∧ (uses.takeWhile (· ≠ key)).toFinset.card < count := by
  constructor
  · intro hmem
    have hused := List.mem_of_mem_take hmem
    rw [mem_take_iff hused, takeWhile_recent, length_recent] at hmem
    exact ⟨mem_recent.mp hused, hmem⟩
  · rintro ⟨hused, hcard⟩
    rw [mem_take_iff (mem_recent.mpr hused), takeWhile_recent, length_recent]
    exact hcard

theorem take_filter_take {key : α} {keys : List α} (hkeys : keys.Nodup) (count : Nat) :
    ((keys.take (count + 1)).filter (· ≠ key)).take count = (keys.filter (· ≠ key)).take count := by
  induction keys generalizing count with
  | nil => simp
  | cons other keys ih =>
    obtain ⟨hother, hkeys⟩ := List.nodup_cons.mp hkeys
    by_cases heq : other = key
    · subst heq
      have hkept : ∀ keys' : List α, keys'.Sublist keys → keys'.filter (· ≠ other) = keys' := by
        intro keys' hsublist
        refine List.filter_eq_self.mpr fun key hkey => decide_eq_true ?_
        rintro rfl
        exact hother (hsublist.subset hkey)
      rw [List.take_succ_cons, List.filter_cons_of_neg (by simp), List.filter_cons_of_neg (by simp),
        hkept _ (List.take_sublist _ _), hkept _ (List.Sublist.refl _), List.take_take, Nat.min_self]
    · cases count with
      | zero => simp
      | succ count => simpa [heq] using ih hkeys count

/-- A key that is used moves to the front of those that are kept. -/
theorem take_recent_cons (key : α) (uses : List α) (count : Nat) :
    (recent (key :: uses)).take count = (key :: ((recent uses).take count).filter (· ≠ key)).take count := by
  cases count with
  | zero => rfl
  | succ count =>
    rw [recent, List.take_succ_cons, List.take_succ_cons, take_filter_take (nodup_recent uses)]

end Recency
