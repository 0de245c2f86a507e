import Mathlib.Data.List.Basic

namespace Objects

variable {α : Type*}

/-- Change one of the objects there are. -/
def modify (objects : List α) (index : Nat) (f : α → α) : Option (List α) :=
  objects[index]?.map fun object => objects.set index (f object)

/-- Change two of the objects there are, which must not be the same. -/
def modifyBoth (objects : List α) (first second : Nat) (f : α → α → α × α) : Option (List α) :=
  if first = second then none
  else objects[first]?.bind fun a => objects[second]?.map fun b =>
    (objects.set first (f a b).1).set second (f a b).2

variable {objects after : List α} {index first second : Nat}

theorem modify_eq_some {f : α → α} :
    modify objects index f = some after ↔
      ∃ object, objects[index]? = some object ∧ objects.set index (f object) = after :=
  Option.map_eq_some_iff

theorem modifyBoth_eq_some {f : α → α → α × α} :
    modifyBoth objects first second f = some after ↔
      first ≠ second ∧ ∃ a b, objects[first]? = some a ∧ objects[second]? = some b ∧
        (objects.set first (f a b).1).set second (f a b).2 = after := by
  rw [modifyBoth]
  by_cases hsame : first = second
  · simp [hsame]
  · rw [if_neg hsame, Option.bind_eq_some_iff]
    simp [Option.map_eq_some_iff, hsame]

theorem getElem?_set_self_of_getElem? {object : α} (hobject : objects[index]? = some object) (new : α) :
    (objects.set index new)[index]? = some new := by
  obtain ⟨hindex, -⟩ := List.getElem?_eq_some_iff.mp hobject
  rw [List.getElem?_set_self hindex]

theorem modify_spec (f : α → α) {object : α} (hobject : objects[index]? = some object) :
    ∃ after, modify objects index f = some after ∧ after[index]? = some (f object) ∧
      ∀ other ≠ index, after[other]? = objects[other]? :=
  ⟨_, modify_eq_some.mpr ⟨object, hobject, rfl⟩, getElem?_set_self_of_getElem? hobject _,
    fun _ hother => List.getElem?_set_ne (Ne.symm hother)⟩

theorem modifyBoth_spec (f : α → α → α × α) {a b : α} (hne : first ≠ second) (hfirst : objects[first]? = some a)
    (hsecond : objects[second]? = some b) :
    ∃ after, modifyBoth objects first second f = some after ∧ after[first]? = some (f a b).1 ∧
      after[second]? = some (f a b).2 ∧ ∀ other, other ≠ first → other ≠ second → after[other]? = objects[other]? := by
  refine ⟨_, modifyBoth_eq_some.mpr ⟨hne, a, b, hfirst, hsecond, rfl⟩, ?_, ?_, fun other hother hother' => ?_⟩
  · rw [List.getElem?_set_ne hne.symm]
    exact getElem?_set_self_of_getElem? hfirst _
  · have hkept : (objects.set first (f a b).1)[second]? = some b := by
      rw [List.getElem?_set_ne hne]
      exact hsecond
    exact getElem?_set_self_of_getElem? hkept _
  · rw [List.getElem?_set_ne hother'.symm, List.getElem?_set_ne hother.symm]

section Forall

variable {P : α → Prop} (hobjects : ∀ object ∈ objects, P object)

include hobjects

/-- All objects keep a property where the changed one has it. -/
theorem forall_modify_iff (f : α → α) :
    (∀ after, modify objects index f = some after → ∀ object ∈ after, P object) ↔
      ∀ object, objects[index]? = some object → P (f object) := by
  constructor
  · intro hafter object hobject
    obtain ⟨after, hmodify, hself, -⟩ := modify_spec f hobject
    exact hafter after hmodify _ (List.mem_of_getElem? hself)
  · intro hchanged after hmodify object hmem
    obtain ⟨old, hold, rfl⟩ := modify_eq_some.mp hmodify
    rcases List.mem_or_eq_of_mem_set hmem with hmem | rfl
    · exact hobjects object hmem
    · exact hchanged old hold

/-- All objects keep a property where the two that are changed have it. -/
theorem forall_modifyBoth_iff (f : α → α → α × α) :
    (∀ after, modifyBoth objects first second f = some after → ∀ object ∈ after, P object) ↔
      (first ≠ second → ∀ a b, objects[first]? = some a → objects[second]? = some b → P (f a b).1 ∧ P (f a b).2) := by
  constructor
  · intro hafter hne a b hfirst hsecond
    obtain ⟨after, hmodify, hfirst', hsecond', -⟩ := modifyBoth_spec f hne hfirst hsecond
    exact ⟨hafter after hmodify _ (List.mem_of_getElem? hfirst'), hafter after hmodify _ (List.mem_of_getElem? hsecond')⟩
  · intro hchanged after hmodify object hmem
    obtain ⟨hne, a, b, hfirst, hsecond, rfl⟩ := modifyBoth_eq_some.mp hmodify
    obtain ⟨ha, hb⟩ := hchanged hne a b hfirst hsecond
    rcases List.mem_or_eq_of_mem_set hmem with hmem | rfl
    · rcases List.mem_or_eq_of_mem_set hmem with hmem | rfl
      · exact hobjects object hmem
      · exact ha
    · exact hb

/-- All objects keep a property where one that is added has it. -/
theorem forall_concat_iff (new : α) : (∀ object ∈ objects ++ [new], P object) ↔ P new := by
  constructor
  · exact fun hafter => hafter new (by simp)
  · intro hnew object hmem
    rcases List.mem_append.mp hmem with hmem | hmem
    · exact hobjects object hmem
    · rw [List.mem_singleton.mp hmem]
      exact hnew

end Forall

end Objects
