import Mathlib.Data.List.Basic

/-- Some values can be joined with the one behind them. What has been joined can be joined with the same values as its
    parts. -/
class Joins (α : Type*) where
  join : α → α → Option α
  join_none : ∀ {before first second both : α}, join first second = some both → join before first = none →
    join before both = none
  join_some : ∀ {before first second both joined : α}, join first second = some both → join before first = some joined →
    ∃ all, join joined second = some all ∧ join before both = some all

namespace Joins

variable {α : Type*} [Joins α]

/-- A value is appended to others, of which the last one comes first. -/
def push : List α → α → List α
  | [], value => [value]
  | last :: values, value =>
    match join last value with
    | some both => both :: values
    | none => value :: last :: values

def pushAll (values : List α) (more : List α) : List α := more.foldl push values

theorem pushAll_append (values first second : List α) :
    pushAll values (first ++ second) = pushAll (pushAll values first) second := List.foldl_append

/-- Two values that can be joined are appended as their join is. -/
theorem push_push (values : List α) {first second both : α} (hjoin : join first second = some both) :
    push (push values first) second = push values both := by
  cases values with
  | nil => simp [push, hjoin]
  | cons last values =>
    cases hfirst : join last first with
    | none => simp [push, hfirst, hjoin, join_none hjoin hfirst]
    | some joined =>
      obtain ⟨all, hall, hboth⟩ := join_some hjoin hfirst
      simp [push, hfirst, hall, hboth]

end Joins
