import Mathlib.Data.Nat.Bitwise

namespace Nat

/-- A mask of adjacent bits takes the bits of a number at their place. -/
theorem and_mask (place width number : Nat) :
    number &&& (2 ^ width - 1) <<< place = number / 2 ^ place % 2 ^ width * 2 ^ place := by
  rw [← Nat.shiftRight_eq_div_pow, ← Nat.and_two_pow_sub_one_eq_mod, ← Nat.shiftLeft_eq]
  refine Nat.eq_of_testBit_eq fun i => ?_
  simp only [Nat.testBit_and, Nat.testBit_shiftLeft, Nat.testBit_shiftRight]
  by_cases hi : place ≤ i
  · rw [Nat.add_sub_cancel' hi]
    simp [hi]
  · simp [hi]

/-- Bits below all others are added to them. -/
theorem or_eq_add (place : Nat) {high low : Nat} (hhigh : 2 ^ place ∣ high) (hlow : low < 2 ^ place) :
    high ||| low = high + low := by
  obtain ⟨quotient, rfl⟩ := hhigh
  exact (Nat.two_pow_add_eq_or_of_lt hlow quotient).symm

end Nat
