import Mathlib.Data.List.Range
import Mathlib.Logic.Function.Basic

/-- The content of one queue that carries numbered streams one after another:
    what is left of every stream before `stop`, in order. -/
def lanes {α : Type*} (rest : Nat → List α) (stop : Nat) : List α :=
  (List.range stop).flatMap rest

section Lanes

variable {α : Type*} {rest : Nat → List α}

theorem lanes_succ (rest : Nat → List α) (stop : Nat) :
    lanes rest (stop + 1) = lanes rest stop ++ rest stop := by
  simp [lanes, List.range_succ]

theorem lanes_congr {rest' : Nat → List α} {stop : Nat} (h : ∀ lane < stop, rest lane = rest' lane) :
    lanes rest stop = lanes rest' stop := by
  induction stop with
  | zero => rfl
  | succ stop ih =>
    rw [lanes_succ, lanes_succ, h stop (by omega), ih fun lane hlane => h lane (by omega)]

theorem lanes_eq_nil {stop : Nat} (h : ∀ lane < stop, rest lane = []) : lanes rest stop = [] := by
  simpa [lanes] using h

/-- Appending to the last stream appends to the queue. -/
theorem lanes_push (rest : Nat → List α) (stop : Nat) (item : α) :
    lanes (Function.update rest stop (rest stop ++ [item])) (stop + 1) =
      lanes rest (stop + 1) ++ [item] := by
  have hbefore : lanes (Function.update rest stop (rest stop ++ [item])) stop = lanes rest stop :=
    lanes_congr fun lane hlane => Function.update_of_ne (by omega) _ _
  rw [lanes_succ, lanes_succ, hbefore, Function.update_self, List.append_assoc]

/-- The front of the queue is the front of the first stream that is not empty. -/
theorem lanes_pop {stop front : Nat} {item : α} {tail : List α} (hfront : front < stop)
    (hbefore : ∀ lane < front, rest lane = []) (hrest : rest front = item :: tail) :
    lanes rest stop = item :: lanes (Function.update rest front tail) stop := by
  induction stop with
  | zero => omega
  | succ stop ih =>
    rw [lanes_succ, lanes_succ]
    by_cases hlast : front = stop
    · subst hlast
      have hafter : lanes (Function.update rest front tail) front = [] := by
        refine lanes_eq_nil fun lane hlane => ?_
        rw [Function.update_of_ne (by omega), hbefore lane hlane]
      rw [lanes_eq_nil hbefore, hafter, hrest, Function.update_self]
      rfl
    · rw [ih (by omega), Function.update_of_ne (by omega)]
      rfl

end Lanes
