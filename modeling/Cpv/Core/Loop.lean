import Mathlib.Logic.Relation

namespace Loop

variable {State : Type*} (round : State → Option (ForInStep State))

/-- Rounds of a loop until one of them ends it. There is no result when a round has none, or when more rounds are needed
    than allowed. -/
def run : Nat → State → Option State
  | 0, _ => none
  | rounds + 1, state =>
    match round state with
    | none => none
    | some (.done final) => some final
    | some (.yield next) => run rounds next

/-- The states at the beginning of the rounds from a state on. -/
def Reached (start : State) : State → Prop :=
  Relation.ReflTransGen (fun before after => round before = some (.yield after)) start

variable {round}

theorem run_done {rounds : Nat} {state final : State} (hround : round state = some (.done final)) :
    run round (rounds + 1) state = some final := by
  rw [run, hround]

theorem run_yield {rounds : Nat} {state next : State} (hround : round state = some (.yield next)) :
    run round (rounds + 1) state = run round rounds next := by
  rw [run, hround]

/-- What every round preserves holds at the beginning of every round. -/
theorem Reached.preserves {P : State → Prop}
    (hround : ∀ before after, round before = some (.yield after) → P before → P after)
    {start state : State} (hreached : Reached round start state) (hstart : P start) : P state := by
  induction hreached with
  | refl => exact hstart
  | tail _ hlast ih => exact hround _ _ hlast ih

/-- A loop whose rounds keep an invariant and make a measure smaller ends in a final state. -/
theorem run_spec (Invariant : State → Prop) {Final : State → Prop} (measure : State → Nat)
    (hround : ∀ before, Invariant before →
      (∃ final, round before = some (.done final) ∧ Final final) ∨
        ∃ after, round before = some (.yield after) ∧ Invariant after ∧ measure after < measure before)
    {start : State} (hstart : Invariant start) {rounds : Nat} (hrounds : measure start < rounds) :
    ∃ final, run round rounds start = some final ∧ Final final := by
  induction rounds generalizing start with
  | zero => omega
  | succ rounds ih =>
    rcases hround start hstart with ⟨final, hdone, hfinal⟩ | ⟨after, hyield, hafter, hsmaller⟩
    · exact ⟨final, run_done hdone, hfinal⟩
    · rw [run_yield hyield]
      exact ih hafter (by omega)

/-- A loop whose rounds leave a value as it is computes that value. -/
theorem run_eq (Invariant : State → Prop) (measure : State → Nat) {Result : Type*} (result : State → Result)
    (output : State → Result)
    (hround : ∀ before, Invariant before →
      (∃ final, round before = some (.done final) ∧ output final = result before) ∨
        ∃ after, round before = some (.yield after) ∧ Invariant after ∧ result after = result before ∧
          measure after < measure before)
    {start : State} (hstart : Invariant start) {rounds : Nat} (hrounds : measure start < rounds) :
    (run round rounds start).map output = some (result start) := by
  have hfinal : ∃ final, run round rounds start = some final ∧ output final = result start := by
    refine run_spec (fun state => Invariant state ∧ result state = result start) measure (fun before hbefore => ?_)
      ⟨hstart, rfl⟩ hrounds
    rcases hround before hbefore.1 with ⟨final, hdone, hfinal⟩ | ⟨after, hyield, hafter, hsame, hsmaller⟩
    · exact .inl ⟨final, hdone, hfinal.trans hbefore.2⟩
    · exact .inr ⟨after, hyield, ⟨hafter, hsame.trans hbefore.2⟩, hsmaller⟩
  obtain ⟨final, hrun, hfinal⟩ := hfinal
  rw [hrun]
  exact congrArg some hfinal

end Loop
