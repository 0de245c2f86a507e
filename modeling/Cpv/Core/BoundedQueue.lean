import Mathlib.Data.List.Basic

/-- A bounded first-in first-out queue between one producer and one consumer,
    either of which may be made to wait. Once aborted it stays empty and every
    later operation on it fails. -/
structure BoundedQueue (α : Type*) where
  items : List α
  maxSize : Nat
  aborted : Bool

namespace BoundedQueue

variable {α : Type*}

/-- An empty queue that is not aborted. -/
def new (maxSize : Nat) : BoundedQueue α := { items := [], maxSize, aborted := false }

def empty (queue : BoundedQueue α) : Bool := queue.items.isEmpty

def full (queue : BoundedQueue α) : Bool := decide (queue.maxSize ≤ queue.items.length)

/-- How an operation that may wait ends: with a result, with the abort
    exception, or not yet. -/
inductive Outcome (β : Type*)
  | ready (value : β)
  | failed
  | pending

/-- Append at the back, waiting while the queue is full. -/
def pushEventually (queue : BoundedQueue α) (item : α) : Outcome (BoundedQueue α) :=
  if queue.aborted then .failed
  else if queue.full then .pending
  else .ready { queue with items := queue.items ++ [item] }

/-- Remove from the front, waiting while the queue is empty. -/
def popEventually (queue : BoundedQueue α) : Outcome (α × BoundedQueue α) :=
  if queue.aborted then .failed
  else match queue.items with
    | [] => .pending
    | item :: rest => .ready (item, { queue with items := rest })

/-- Drop the content and fail every waiter and every later operation. -/
def abort (queue : BoundedQueue α) : BoundedQueue α :=
  { queue with items := [], aborted := true }

theorem pushEventually_eq_ready {queue after : BoundedQueue α} {item : α} :
    queue.pushEventually item = .ready after ↔
      queue.aborted = false ∧ queue.full = false ∧
        after = { queue with items := queue.items ++ [item] } := by
  unfold pushEventually
  cases queue.aborted <;> cases queue.full <;> simp [eq_comm]

theorem popEventually_eq_ready {queue after : BoundedQueue α} {item : α} :
    queue.popEventually = .ready (item, after) ↔
      queue.aborted = false ∧ queue.items = item :: after.items ∧
        after = { queue with items := after.items } := by
  obtain ⟨items, maxSize, aborted⟩ := queue
  obtain ⟨rest, maxSize', aborted'⟩ := after
  cases aborted <;> cases items <;> simp [popEventually]
  grind

theorem pushEventually_ne_failed {queue : BoundedQueue α} (hopen : queue.aborted = false) (item : α) :
    queue.pushEventually item ≠ .failed := by
  unfold pushEventually
  cases queue.full <;> simp [hopen]

theorem popEventually_ne_failed {queue : BoundedQueue α} (hopen : queue.aborted = false) :
    queue.popEventually ≠ .failed := by
  unfold popEventually
  cases queue.items <;> simp [hopen]

theorem pushEventually_of_aborted {queue : BoundedQueue α} (haborted : queue.aborted = true) (item : α) :
    queue.pushEventually item = .failed := by
  simp [pushEventually, haborted]

theorem popEventually_of_aborted {queue : BoundedQueue α} (haborted : queue.aborted = true) :
    queue.popEventually = .failed := by
  simp [popEventually, haborted]

end BoundedQueue
