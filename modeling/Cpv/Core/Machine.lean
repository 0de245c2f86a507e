import Mathlib.Data.List.Basic

namespace Machine

variable {State Label : Type*} (step : State → Label → Option State)

/-- The state a partial step function reaches along a list of labels, if every
    one of them is enabled. All nondeterminism sits in the labels. -/
def run (start : State) (labels : List Label) : Option State :=
  labels.foldlM step start

@[simp]
theorem run_nil (start : State) : run step start [] = some start := rfl

theorem run_cons (start : State) (label : Label) (labels : List Label) :
    run step start (label :: labels) = (step start label).bind fun next => run step next labels := rfl

theorem run_cons_eq_some {start final : State} {label : Label} {labels : List Label} :
    run step start (label :: labels) = some final ↔
      ∃ next, step start label = some next ∧ run step next labels = some final := by
  rw [run_cons, Option.bind_eq_some_iff]

/-- Every step taken from `start` along the labels meets the condition `ok`,
    which sees the state before the step and its label. -/
def Conforms (ok : State → Label → Prop) : State → List Label → Prop
  | _, [] => True
  | start, label :: labels => ok start label ∧ ∀ next, step start label = some next → Conforms ok next labels

instance decidableConforms (ok : State → Label → Prop) [∀ state label, Decidable (ok state label)] :
    ∀ (start : State) (labels : List Label), Decidable (Conforms step ok start labels)
  | _, [] => inferInstanceAs (Decidable True)
  | start, label :: labels =>
    have : DecidablePred fun next => Conforms step ok next labels :=
      fun next => decidableConforms ok next labels
    inferInstanceAs (Decidable (ok start label ∧ ∀ next ∈ step start label, Conforms step ok next labels))

/-- A condition on the labels alone. -/
theorem conforms_of_forall {ok : Label → Prop} (start : State) {labels : List Label} (hok : ∀ label ∈ labels, ok label) :
    Conforms step (fun _ => ok) start labels := by
  induction labels generalizing start with
  | nil => trivial
  | cons label labels ih =>
    exact ⟨hok label List.mem_cons_self,
      fun next _ => ih next fun other hother => hok other (List.mem_cons_of_mem _ hother)⟩

variable {step}

/-- What every step preserves, every run preserves. -/
theorem run_preserves {P : State → Prop}
    (hstep : ∀ before label after, step before label = some after → P before → P after)
    {start final : State} {labels : List Label} (hrun : run step start labels = some final)
    (hstart : P start) : P final := by
  induction labels generalizing start with
  | nil =>
    rw [run_nil, Option.some.injEq] at hrun
    exact hrun ▸ hstart
  | cons label labels ih =>
    obtain ⟨next, hnext, hrest⟩ := (run_cons_eq_some step).mp hrun
    exact ih hrest (hstep start label next hnext hstart)

/-- What every step that meets the condition preserves, every run whose steps
    all meet it preserves. -/
theorem run_preserves_of_conforms {ok : State → Label → Prop} {P : State → Prop}
    (hstep : ∀ before label after, ok before label → step before label = some after →
      P before → P after)
    {start final : State} {labels : List Label} (hconforms : Conforms step ok start labels)
    (hrun : run step start labels = some final) (hstart : P start) : P final := by
  induction labels generalizing start with
  | nil =>
    rw [run_nil, Option.some.injEq] at hrun
    exact hrun ▸ hstart
  | cons label labels ih =>
    obtain ⟨next, hnext, hrest⟩ := (run_cons_eq_some step).mp hrun
    exact ih (hconforms.2 next hnext) hrest (hstep start label next hconforms.1 hnext hstart)

/-- Two conditions that agree in all states with an invariant agree on runs, where a step that meets the first one
    keeps the invariant. -/
theorem conforms_congr_of_ok {ok ok' : State → Label → Prop} {P : State → Prop}
    (hstep : ∀ before label after, ok before label → step before label = some after → P before → P after)
    (hok : ∀ state label, P state → (ok state label ↔ ok' state label))
    {start : State} (hstart : P start) (labels : List Label) :
    Conforms step ok start labels ↔ Conforms step ok' start labels := by
  induction labels generalizing start with
  | nil => exact Iff.rfl
  | cons label labels ih =>
    rw [Conforms, Conforms, ← hok start label hstart]
    refine and_congr_right fun hlabel => forall_congr' fun next => imp_congr_right fun hnext => ?_
    exact ih (hstep start label next hlabel hnext hstart)

/-- Two conditions that agree in all states with an invariant agree on runs. -/
theorem conforms_congr {ok ok' : State → Label → Prop} {P : State → Prop}
    (hstep : ∀ before label after, step before label = some after → P before → P after)
    (hok : ∀ state label, P state → (ok state label ↔ ok' state label))
    {start : State} (hstart : P start) (labels : List Label) :
    Conforms step ok start labels ↔ Conforms step ok' start labels :=
  conforms_congr_of_ok (fun before label after _ => hstep before label after) hok hstart labels

end Machine
