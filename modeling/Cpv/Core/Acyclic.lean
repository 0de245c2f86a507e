import Mathlib.Data.Finset.Card
import Mathlib.Data.Finset.Filter
import Mathlib.Logic.Relation

namespace Relation

open scoped Classical in
/-- How many members of a finite set can be reached along a relation. On an acyclic one it bounds the length of
    every path. -/
noncomputable def reach {α : Type*} (r : α → α → Prop) (bound : Finset α) (a : α) : Nat :=
  (bound.filter (TransGen r a)).card

variable {α : Type*} {r : α → α → Prop} {bound : Finset α}

theorem reach_le (r : α → α → Prop) (bound : Finset α) (a : α) : reach r bound a ≤ bound.card := by
  classical exact Finset.card_filter_le ..

/-- A step of an acyclic relation leaves less to be reached. -/
theorem reach_lt (hacyclic : ∀ a, ¬ TransGen r a a) {a b : α} (hab : r a b) (hb : b ∈ bound) :
    reach r bound b < reach r bound a := by
  classical
  apply Finset.card_lt_card
  rw [Finset.ssubset_iff_of_subset]
  · exact ⟨b, Finset.mem_filter.mpr ⟨hb, .single hab⟩, fun hmem => hacyclic b (Finset.mem_filter.mp hmem).2⟩
  · intro c hc
    obtain ⟨hbound, hreach⟩ := Finset.mem_filter.mp hc
    exact Finset.mem_filter.mpr ⟨hbound, .head hab hreach⟩

end Relation
