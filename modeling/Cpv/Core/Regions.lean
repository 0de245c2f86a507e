import Mathlib.Algebra.Order.BigOperators.Group.List
import Mathlib.Algebra.Order.Ring.Nat
import Mathlib.Data.List.Basic

/-- A piece of memory -/
structure Region where
  start : Nat
  length : Nat

namespace Region

def stop (region : Region) : Nat := region.start + region.length

def Disjoint (first second : Region) : Prop := first.stop ≤ second.start ∨ second.stop ≤ first.start

theorem Disjoint.symm {first second : Region} (hdisjoint : first.Disjoint second) : second.Disjoint first :=
  Or.symm hdisjoint

/-- Regions between two addresses, no two of which overlap. -/
structure Packed (low high : Nat) (regions : List Region) : Prop where
  le : low ≤ high
  within : ∀ region ∈ regions, low ≤ region.start ∧ region.stop ≤ high
  disjoint : regions.Pairwise Disjoint
  total_le : (regions.map length).sum ≤ high - low

namespace Packed

variable {low high : Nat} {regions : List Region}

theorem nil (hle : low ≤ high) : Packed low high [] := ⟨hle, by simp, .nil, Nat.zero_le _⟩

/-- A region above the others -/
theorem cons (hregions : Packed low high regions) (region : Region) (hstart : high ≤ region.start) :
    Packed low region.stop (region :: regions) := by
  have hle := hregions.le
  have htotal := hregions.total_le
  refine ⟨by unfold stop; omega, ?_, List.pairwise_cons.mpr ⟨?_, hregions.disjoint⟩, ?_⟩
  · intro other hother
    rcases List.mem_cons.mp hother with rfl | hother
    · exact ⟨hle.trans hstart, le_rfl⟩
    · obtain ⟨hlow, hhigh⟩ := hregions.within other hother
      exact ⟨hlow, by unfold stop at *; omega⟩
  · intro other hother
    exact .inr ((hregions.within other hother).2.trans hstart)
  · rw [List.map_cons, List.sum_cons]
    unfold stop
    omega

/-- Some of the regions -/
theorem sublist (hregions : Packed low high regions) {fewer : List Region} (hfewer : fewer.Sublist regions) :
    Packed low high fewer where
  le := hregions.le
  within region hregion := hregions.within region (hfewer.subset hregion)
  disjoint := hregions.disjoint.sublist hfewer
  total_le := ((hfewer.map length).sum_le_sum fun _ _ => Nat.zero_le _).trans hregions.total_le

/-- There are no more regions than bytes between the addresses, where none of the regions is empty. -/
theorem length_le (hregions : Packed low high regions) (hpos : ∀ region ∈ regions, 0 < region.length) :
    regions.length ≤ high - low := by
  have hsum : regions.length ≤ (regions.map length).sum := by
    have hone := List.card_nsmul_le_sum (regions.map length) 1 (by simpa [Nat.one_le_iff_ne_zero, Nat.pos_iff_ne_zero] using hpos)
    simpa using hone
  exact hsum.trans hregions.total_le

end Packed

end Region
