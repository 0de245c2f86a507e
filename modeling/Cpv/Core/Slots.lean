import Mathlib.Data.List.Basic

namespace Slots

variable {α : Type*} {slots : List (Option α)} {index size : Nat}

/-- The first slots hold a value each. -/
def FilledBelow (slots : List (Option α)) (size : Nat) : Prop := ∀ i < size, ∃ a, slots[i]? = some (some a)

/-- The first slots hold a value each, and the others hold none. -/
def FilledTo (slots : List (Option α)) (size : Nat) : Prop := ∀ i, (∃ a, slots[i]? = some (some a)) ↔ i < size

theorem filledTo_replicate (capacity : Nat) : FilledTo (List.replicate capacity (none : Option α)) 0 := by
  intro i
  simp [List.getElem?_replicate]

theorem FilledTo.filledBelow (hfilled : FilledTo slots size) : FilledBelow slots size := fun i hi => (hfilled i).mpr hi

/-- A value is put behind the first slots, whatever was there, and the slots that were filled before do not go beyond. -/
theorem FilledBelow.put (hfilled : FilledBelow slots size) (hlt : size < slots.length) (a : α) :
    FilledBelow (slots.set size (some a)) (size + 1) := by
  intro i hi
  by_cases heq : i = size
  · rw [heq]
    exact ⟨a, List.getElem?_set_self hlt⟩
  · rw [List.getElem?_set_ne (Ne.symm heq)]
    exact hfilled i (by omega)

/-- No slot that was filled is beyond, exactly where the slots are filled as before. -/
theorem FilledTo.put_iff {filled : Nat} (hfilled : FilledTo slots filled) (hlow : size ≤ filled) (hlt : size < slots.length)
    (a : α) : FilledTo (slots.set size (some a)) (size + 1) ↔ filled ≤ size + 1 := by
  constructor
  · intro hput
    by_contra hbeyond
    have hslot := (hfilled (size + 1)).mpr (by omega)
    rw [← List.getElem?_set_ne (by omega : size ≠ size + 1)] at hslot
    exact absurd ((hput (size + 1)).mp hslot) (Nat.lt_irrefl _)
  · intro hhigh i
    by_cases heq : i = size
    · rw [heq, List.getElem?_set_self hlt]
      exact iff_of_true ⟨a, rfl⟩ (Nat.lt_succ_self _)
    · rw [List.getElem?_set_ne (Ne.symm heq), hfilled i]
      omega

/-- The value in the last of the first slots is taken. -/
theorem FilledBelow.take (hfilled : FilledBelow slots (size + 1)) : FilledBelow (slots.set size none) size := by
  intro i hi
  rw [List.getElem?_set_ne (by omega)]
  exact hfilled i (by omega)

theorem FilledTo.take (hfilled : FilledTo slots (size + 1)) : FilledTo (slots.set size none) size := by
  intro i
  by_cases heq : i = size
  · rw [heq, List.getElem?_set]
    simp
  · rw [List.getElem?_set_ne (Ne.symm heq), hfilled i]
    omega

theorem getElem?_eq_getD (hindex : index < slots.length) : slots[index]? = some (slots.getD index none) := by
  simp [hindex]

/-- How often a value is there, when a slot is changed. -/
theorem count_set_add [DecidableEq α] {old : Option α} (hold : slots[index]? = some old) (new : Option α) (a : α) :
    (slots.set index new).count (some a) + [old].count (some a) = slots.count (some a) + [new].count (some a) := by
  obtain ⟨hindex, rfl⟩ := List.getElem?_eq_some_iff.mp hold
  have hpos : slots[index] = some a → 0 < slots.count (some a) := by
    intro hsame
    rw [← hsame]
    exact List.count_pos_iff.mpr (List.getElem_mem hindex)
  rw [List.count_set hindex, List.count_singleton, List.count_singleton]
  by_cases hsame : slots[index] = some a
  · have hpos := hpos hsame
    simp only [hsame, beq_self_eq_true, if_true]
    omega
  · simp [hsame]

theorem count_none [DecidableEq α] (a : α) : [(none : Option α)].count (some a) = 0 := by simp

end Slots
