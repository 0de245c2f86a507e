import Mathlib.Data.List.Basic

namespace Transducer

variable {State Operation Result : Type*}

/-- The results of a list of operations, in their order, and the state they leave. -/
def run (apply : State → Operation → Result × State) (start : State) : List Operation → List Result × State
  | [] => ([], start)
  | operation :: operations =>
    let (result, next) := apply start operation
    let (results, final) := run apply next operations
    (result :: results, final)

variable {apply : State → Operation → Result × State}

@[simp]
theorem run_nil (start : State) : run apply start [] = ([], start) := rfl

theorem run_cons (start : State) (operation : Operation) (operations : List Operation) :
    run apply start (operation :: operations) =
      ((apply start operation).1 :: (run apply (apply start operation).2 operations).1,
        (run apply (apply start operation).2 operations).2) := rfl

theorem run_append (start : State) (operations operations' : List Operation) :
    run apply start (operations ++ operations') =
      ((run apply start operations).1 ++ (run apply (run apply start operations).2 operations').1,
        (run apply (run apply start operations).2 operations').2) := by
  induction operations generalizing start with
  | nil => rfl
  | cons operation operations ih =>
    rw [List.cons_append, run_cons, ih, run_cons]
    rfl

/-- One more operation at the end. -/
theorem run_concat (start : State) (operations : List Operation) (operation : Operation) :
    run apply start (operations ++ [operation]) =
      ((run apply start operations).1 ++ [(apply (run apply start operations).2 operation).1],
        (apply (run apply start operations).2 operation).2) := by
  rw [run_append]
  rfl

theorem snd_run_concat (start : State) (operations : List Operation) (operation : Operation) :
    (run apply start (operations ++ [operation])).2 = (apply (run apply start operations).2 operation).2 :=
  congrArg Prod.snd (run_concat start operations operation)

/-- What every operation preserves, every list of operations preserves. -/
theorem run_preserves {P : State → Prop} (happly : ∀ state operation, P state → P (apply state operation).2)
    {start : State} (hstart : P start) (operations : List Operation) : P (run apply start operations).2 := by
  induction operations generalizing start with
  | nil => exact hstart
  | cons operation operations ih => exact ih (happly start operation hstart)

/-- Where every operation has the same result on related states and leaves them related, every list of operations has
    the same results. -/
theorem run_simulates {State' : Type*} {apply' : State' → Operation → Result × State'} {R : State → State' → Prop}
    (happly : ∀ state state' operation, R state state' →
      (apply state operation).1 = (apply' state' operation).1 ∧
        R (apply state operation).2 (apply' state' operation).2)
    {start : State} {start' : State'} (hstart : R start start') (operations : List Operation) :
    (run apply start operations).1 = (run apply' start' operations).1 ∧
      R (run apply start operations).2 (run apply' start' operations).2 := by
  induction operations generalizing start start' with
  | nil => exact ⟨rfl, hstart⟩
  | cons operation operations ih =>
    obtain ⟨hresult, hnext⟩ := happly start start' operation hstart
    obtain ⟨hresults, hfinal⟩ := ih hnext
    rw [run_cons, run_cons, hresult, hresults]
    exact ⟨rfl, hfinal⟩

end Transducer
