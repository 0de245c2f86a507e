import Mathlib.Logic.Relation

/-- A computation over a state that returns, throws or does not come back at all. What it did to the state before it
    threw stays done. -/
abbrev Run (ε σ α : Type) := ExceptT ε (StateT σ Option) α

namespace Run

variable {ε σ τ α β : Type}

/-- The outcome of a computation and the state it leaves, `none` when it does not come back. -/
def exec (m : Run ε σ α) (s : σ) : Option (Except ε α × σ) := (ExceptT.run m).run s

/-- The computation that does not come back. -/
def diverge : Run ε σ α := ExceptT.mk fun _ => none

/-- A computation that returns the outcome of another, thrown or not. -/
def attempt (m : Run ε σ α) : Run ε σ (Except ε α) := ExceptT.mk (Except.ok <$> ExceptT.run m)

/-- A computation with a given outcome. -/
def ofExcept (outcome : Except ε α) : Run ε σ α := ExceptT.mk (pure outcome)

/-- The computation that has a given result, and does not come back where there is none. -/
def ofOption (result : Option α) : Run ε σ α := ExceptT.mk fun s => result.map fun a => (.ok a, s)

@[simp]
theorem exec_pure (a : α) (s : σ) : exec (pure a : Run ε σ α) s = some (.ok a, s) := rfl

@[simp]
theorem exec_throw (e : ε) (s : σ) : exec (throw e : Run ε σ α) s = some (.error e, s) := rfl

@[simp]
theorem exec_diverge (s : σ) : exec (diverge : Run ε σ α) s = none := rfl

@[simp]
theorem exec_ofExcept (outcome : Except ε α) (s : σ) : exec (ofExcept outcome) s = some (outcome, s) := rfl

@[simp]
theorem exec_ofOption (result : Option α) (s : σ) :
    exec (ofOption result : Run ε σ α) s = result.map fun a => (.ok a, s) := rfl

@[simp]
theorem exec_modify (f : σ → σ) (s : σ) : exec (modify f : Run ε σ PUnit) s = some (.ok ⟨⟩, f s) := rfl

@[simp]
theorem exec_get (s : σ) : exec (get : Run ε σ σ) s = some (.ok s, s) := rfl

@[simp]
theorem exec_attempt (m : Run ε σ α) (s : σ) :
    exec (attempt m) s = (exec m s).map fun result => (.ok result.1, result.2) := by
  show ((exec m s).bind fun result => some (Except.ok result.1, result.2)) = _
  cases exec m s <;> rfl

theorem exec_bind (m : Run ε σ α) (f : α → Run ε σ β) (s : σ) :
    exec (m >>= f) s = (exec m s).bind fun
      | (.ok a, t) => exec (f a) t
      | (.error e, t) => some (.error e, t) := by
  show (exec m s).bind _ = _
  congr 1
  funext ⟨outcome, t⟩
  cases outcome <;> rfl

theorem exec_bind_ok {m : Run ε σ α} {f : α → Run ε σ β} {s t : σ} {a : α} (hm : exec m s = some (.ok a, t)) :
    exec (m >>= f) s = exec (f a) t := by
  rw [exec_bind, hm, Option.bind_some]

theorem exec_bind_error {m : Run ε σ α} {f : α → Run ε σ β} {s t : σ} {e : ε}
    (hm : exec m s = some (.error e, t)) : exec (m >>= f) s = some (.error e, t) := by
  rw [exec_bind, hm, Option.bind_some]

theorem exec_bind_none {m : Run ε σ α} {f : α → Run ε σ β} {s : σ} (hm : exec m s = none) :
    exec (m >>= f) s = none := by
  rw [exec_bind, hm, Option.bind_none]

/-- A sequence comes back when its first part throws, or returns and the rest comes back. -/
theorem exec_bind_eq_some {m : Run ε σ α} {f : α → Run ε σ β} {s t : σ} {outcome : Except ε β} :
    exec (m >>= f) s = some (outcome, t) ↔
      (∃ e, exec m s = some (.error e, t) ∧ outcome = .error e) ∨
      ∃ a mid, exec m s = some (.ok a, mid) ∧ exec (f a) mid = some (outcome, t) := by
  constructor
  · intro hexec
    rcases hm : exec m s with _ | ⟨e | a, mid⟩
    · rw [exec_bind_none hm] at hexec
      cases hexec
    · rw [exec_bind_error hm] at hexec
      cases hexec
      exact .inl ⟨e, rfl, rfl⟩
    · rw [exec_bind_ok hm] at hexec
      exact .inr ⟨a, mid, rfl, hexec⟩
  · rintro (⟨e, hm, rfl⟩ | ⟨a, mid, hm, hexec⟩)
    · exact exec_bind_error hm
    · rw [exec_bind_ok hm, hexec]

/-- A property of computations that goes from the parts of a program to the whole of it. -/
structure Composable (K : ∀ {α : Type}, Run ε σ α → Prop) : Prop where
  pure : ∀ {α : Type} (a : α), K (pure a : Run ε σ α)
  throw : ∀ {α : Type} (e : ε), K (throw e : Run ε σ α)
  bind : ∀ {α β : Type} {m : Run ε σ α} {f : α → Run ε σ β}, K m → (∀ a, K (f a)) → K (m >>= f)
  attempt : ∀ {α : Type} {m : Run ε σ α}, K m → K (attempt m)

/-- The computation comes back, from every state. -/
def Total (m : Run ε σ α) : Prop := ∀ s, ∃ outcome t, exec m s = some (outcome, t)

theorem total_modify (f : σ → σ) : Total (modify f : Run ε σ PUnit) := fun s => ⟨.ok ⟨⟩, f s, rfl⟩

theorem total_get : Total (get : Run ε σ σ) := fun s => ⟨.ok s, s, rfl⟩

theorem composable_total : Composable (ε := ε) (σ := σ) Total where
  pure a := fun s => ⟨.ok a, s, rfl⟩
  throw e := fun s => ⟨.error e, s, rfl⟩
  bind := by
    intro α β m f hm hf s
    obtain ⟨_ | a, t, ht⟩ := hm s
    · exact ⟨_, t, exec_bind_error ht⟩
    · rw [exec_bind_ok ht]
      exact hf a t
  attempt := by
    intro α m hm s
    obtain ⟨outcome, t, ht⟩ := hm s
    exact ⟨.ok outcome, t, by rw [exec_attempt, ht]; rfl⟩

/-- Whenever the computation comes back, thrown or not, it has moved the state along `R`. -/
def Moves (R : σ → σ → Prop) (m : Run ε σ α) : Prop :=
  ∀ ⦃s t outcome⦄, exec m s = some (outcome, t) → R s t

section Moves

variable {R : σ → σ → Prop}

theorem moves_diverge : Moves R (diverge : Run ε σ α) := by
  intro s t outcome ht
  cases ht

theorem moves_modify {f : σ → σ} (hf : ∀ s, R s (f s)) : Moves R (modify f : Run ε σ PUnit) := by
  intro s t outcome ht
  cases ht
  exact hf s

theorem moves_get (hrefl : ∀ s, R s s) : Moves R (get : Run ε σ σ) := by
  intro s t outcome ht
  cases ht
  exact hrefl s

theorem Moves.attempt {m : Run ε σ α} (hm : Moves R m) : Moves R (attempt m) := by
  intro s t outcome ht
  rw [exec_attempt, Option.map_eq_some_iff] at ht
  obtain ⟨⟨_, _⟩, hexec, heq⟩ := ht
  cases heq
  exact hm hexec

/-- Computations that move along a preorder compose. -/
theorem composable_moves (hrefl : ∀ s, R s s) (htrans : ∀ {s t u}, R s t → R t u → R s u) :
    Composable (ε := ε) (Moves R) where
  pure a := by
    intro s t outcome ht
    cases ht
    exact hrefl s
  throw e := by
    intro s t outcome ht
    cases ht
    exact hrefl s
  bind := by
    intro α β m f hm hf s t outcome ht
    rcases exec_bind_eq_some.mp ht with ⟨e, hthrown, -⟩ | ⟨a, mid, hmid, hrest⟩
    · exact hm hthrown
    · exact htrans (hm hmid) (hf a hrest)
  attempt := Moves.attempt

end Moves

/-- From states that `R` relates the two computations have the same outcome, or both do not come back, and leave
    states that `R` relates. -/
def Simulates (R : σ → τ → Prop) (m : Run ε σ α) (m' : Run ε τ α) : Prop :=
  ∀ ⦃s s'⦄, R s s' → Option.Rel (fun left right => left.1 = right.1 ∧ R left.2 right.2) (exec m s) (exec m' s')

namespace Simulates

variable {R : σ → τ → Prop}

theorem pure (a : α) : Simulates R (pure a : Run ε σ α) (pure a : Run ε τ α) := fun _ _ hs => .some ⟨rfl, hs⟩

theorem throw (e : ε) : Simulates R (throw e : Run ε σ α) (throw e : Run ε τ α) := fun _ _ hs => .some ⟨rfl, hs⟩

theorem diverge : Simulates R (diverge : Run ε σ α) (diverge : Run ε τ α) := fun _ _ _ => .none

theorem ofExcept (outcome : Except ε α) : Simulates R (ofExcept outcome) (ofExcept outcome) :=
  fun _ _ hs => .some ⟨rfl, hs⟩

theorem modify {f : σ → σ} {g : τ → τ} (hfg : ∀ {s s'}, R s s' → R (f s) (g s')) :
    Simulates R (modify f : Run ε σ PUnit) (modify g : Run ε τ PUnit) :=
  fun _ _ hs => .some ⟨rfl, hfg hs⟩

theorem attempt {m : Run ε σ α} {m' : Run ε τ α} (hm : Simulates R m m') :
    Simulates R (attempt m) (attempt m') := by
  intro s s' hs
  have hrel := hm hs
  rw [exec_attempt, exec_attempt]
  cases hleft : exec m s <;> cases hright : exec m' s' <;> rw [hleft, hright] at hrel
  · exact .none
  · cases hrel
  · cases hrel
  · cases hrel with
    | some hsame => exact .some ⟨congrArg _ hsame.1, hsame.2⟩

theorem bind {m : Run ε σ α} {m' : Run ε τ α} {f : α → Run ε σ β} {f' : α → Run ε τ β}
    (hm : Simulates R m m') (hf : ∀ a, Simulates R (f a) (f' a)) : Simulates R (m >>= f) (m' >>= f') := by
  intro s s' hs
  have hrel := hm hs
  rw [exec_bind, exec_bind]
  rcases hleft : exec m s with _ | ⟨outcome, t⟩ <;> rcases hright : exec m' s' with _ | ⟨outcome', t'⟩ <;>
    rw [hleft, hright] at hrel
  · exact .none
  · cases hrel
  · cases hrel
  · obtain ⟨hsame, ht⟩ : outcome = outcome' ∧ R t t' := by
      cases hrel with
      | some hboth => exact hboth
    subst hsame
    cases outcome with
    | error e => exact .some ⟨rfl, ht⟩
    | ok a => exact hf a ht

/-- What is read from related states and then used may differ, as long as its uses agree. -/
theorem get_bind {f : σ → Run ε σ α} {f' : τ → Run ε τ α}
    (hf : ∀ {s s'}, R s s' → Option.Rel (fun left right => left.1 = right.1 ∧ R left.2 right.2)
      (exec (f s) s) (exec (f' s') s')) :
    Simulates R (get >>= f) (get >>= f') := by
  intro s s' hs
  rw [exec_bind_ok (exec_get s), exec_bind_ok (exec_get s')]
  exact hf hs

end Simulates

end Run
