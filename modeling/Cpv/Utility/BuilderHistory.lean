import Cpv.Utility.BasicSharedStringBuilder

namespace cpv

open BasicSharedStringBuilder

/-- A builder that a constructor made -/
inductive NewBuilder
  | empty
  | capacity (buffer : Buffer)
  | buffer (str : Buffer)

namespace NewBuilder

/-- The constructors. The bytes of a buffer of a given capacity are what malloc left there. -/
def builder : NewBuilder → BasicSharedStringBuilder
  | .empty => {}
  | .capacity bytes => { buffer := bytes }
  | .buffer str => { buffer := str, size := str.bytes.length }

def str : NewBuilder → SharedString
  | .empty => []
  | .capacity _ => []
  | .buffer str => str.bytes

theorem holds (new : NewBuilder) : new.builder.Holds new.str := by
  cases new with
  | empty => exact ⟨le_rfl, rfl⟩
  | capacity bytes => exact ⟨Nat.zero_le _, List.take_zero⟩
  | buffer str => exact ⟨le_rfl, List.take_length⟩

end NewBuilder

/-- The operations on a builder -/
inductive BuilderOperation
  | appendCopies (count : Nat) (c : UInt8)
  | append (view : SharedString)
  | appendInteger (type : IntType) (value : type.Value)
  | reserve (newSize : Nat)
  | resize (size : Nat)
  | clear
  | build

namespace BuilderOperation

/-- The operation on a builder, and the string that it gives. A size above the one of the view is not asked for. -/
def call (allocator : Allocator) : BuilderOperation → Builds (Option SharedString)
  | .appendCopies count c => do
    BasicSharedStringBuilder.appendCopies allocator count c
    return none
  | .append view => do
    BasicSharedStringBuilder.append allocator view
    return none
  | .appendInteger type value => do
    BasicSharedStringBuilder.appendInteger allocator type value
    return none
  | .reserve newSize => do
    BasicSharedStringBuilder.reserve allocator newSize
    return none
  | .resize size => do
    BasicSharedStringBuilder.resize (min size (← get).size)
    return none
  | .clear => do
    BasicSharedStringBuilder.clear
    return none
  | .build => do
    return some (← BasicSharedStringBuilder.build)

/-- The operation on a plain list, and the list that it gives. -/
def onList : BuilderOperation → SharedString → Option SharedString × SharedString
  | .appendCopies count c, str => (none, str ++ List.replicate count c)
  | .append view, str => (none, str ++ view)
  | .appendInteger _ value, str => (none, str ++ decimalText value)
  | .reserve _, str => (none, str)
  | .resize size, str => (none, str.take size)
  | .clear, _ => (none, [])
  | .build, str => (some str, [])

end BuilderOperation

section Calls

variable {allocator : Allocator} {builder : BasicSharedStringBuilder} {str : SharedString}

/-- A string of a builder is no longer than a size can be. -/
theorem BasicSharedStringBuilder.Holds.length_le (hbuilder : builder.Holds str) : str.length ≤ SizeMax := by
  have hle := hbuilder.size_le
  rw [hbuilder.size_eq] at hle
  exact hle.trans (by decide)

theorem BasicSharedStringBuilder.Does.done {Result : Type} {call : Builds Result} {final : BasicSharedStringBuilder}
    {result : Result} {after : SharedString} (hexec : Run.exec call builder = some (.ok result, final))
    (hfinal : final.Holds after) : Does allocator call builder str result after :=
  ⟨_, final, _, hexec, .done hfinal.length_le, hfinal⟩

/-- A call that gives no string -/
theorem BasicSharedStringBuilder.Does.noString {call : Builds Unit} {after : SharedString}
    (hcall : Does allocator call builder str () after) :
    Does allocator (do call; return none : Builds (Option SharedString)) builder str none after := by
  obtain ⟨outcome, final, result, hexec, hanswers, hfinal⟩ := hcall
  cases hanswers with
  | done hle => exact ⟨_, final, _, (Run.exec_bind_ok hexec).trans (Run.exec_pure _ _), .done hle, hfinal⟩
  | overflow hlt => exact ⟨_, final, _, Run.exec_bind_error hexec, .overflow hlt, hfinal⟩
  | badAlloc hle hrefused => exact ⟨_, final, _, Run.exec_bind_error hexec, .badAlloc hle hrefused, hfinal⟩

theorem BasicSharedStringBuilder.reserve_does (allocator : Allocator) (hbuilder : builder.Holds str) (newSize : Nat) :
    Does allocator (reserve allocator newSize) builder str () str := by
  by_cases hroom : newSize ≤ builder.capacity
  · refine Does.done ?_ hbuilder
    rw [reserve, Run.exec_bind_ok (Run.exec_get builder), if_pos hroom, Run.exec_pure]
  rcases reserve_spec allocator hbuilder newSize with ⟨buffer, hexec, -, hgrown⟩ | ⟨hexec, refused, hle, hrefused⟩
  · exact Does.done hexec hgrown
  · have hsize := hbuilder.size_eq
    have hcapacity := hbuilder.size_le_capacity
    exact ⟨_, builder, _, hexec, .badAlloc hbuilder.length_le ⟨refused, by omega, hrefused⟩, hbuilder⟩

theorem BasicSharedStringBuilder.resize_spec (hbuilder : builder.Holds str) (size : Nat) :
    Run.exec (resize (min size builder.size)) builder = some (.ok (), { builder with size := min size builder.size }) ∧
      { builder with size := min size builder.size }.Holds (str.take size) := by
  have hle : min size builder.size ≤ builder.capacity := (Nat.min_le_right ..).trans hbuilder.size_le_capacity
  refine ⟨?_, hle, ?_⟩
  · rw [resize, Run.exec_bind_ok (Run.exec_get builder), if_pos hle, Run.exec_modify]
  · rw [← hbuilder.view, BasicSharedStringBuilder.view, BasicSharedStringBuilder.view, List.take_take]

/-- Every operation does to the text of the builder what it does to a plain list. -/
theorem BuilderOperation.call_spec (allocator : Allocator) (hbuilder : builder.Holds str) (operation : BuilderOperation) :
    Does allocator (operation.call allocator) builder str (operation.onList str).1 (operation.onList str).2 := by
  cases operation with
  | appendCopies count c => exact (appendCopies_spec allocator hbuilder count c).noString
  | append view => exact (append_spec allocator hbuilder view).noString
  | appendInteger type value => exact (appendInteger_spec allocator hbuilder type value).noString
  | reserve newSize => exact (reserve_does allocator hbuilder newSize).noString
  | resize size =>
    obtain ⟨hexec, hfinal⟩ := resize_spec hbuilder size
    refine Does.done ?_ hfinal
    rw [call, Run.exec_bind_ok (Run.exec_get builder), Run.exec_bind_ok hexec, Run.exec_pure]
    rfl
  | clear => exact Does.done rfl ⟨Nat.zero_le _, List.take_zero⟩
  | build =>
    refine Does.done ?_ NewBuilder.empty.holds
    show some (Except.ok (some builder.view), _) = _
    rw [hbuilder.view]
    rfl

end Calls

/-- A call that returns leaves the text that a builder of unlimited memory has. -/
theorem BasicSharedStringBuilder.append_agrees {allocator : Allocator} {builder final : BasicSharedStringBuilder}
    {unlimited : SharedStringBuilder} {str : SharedString} (hbuilder : builder.Holds str) (hunlimited : unlimited.Built str)
    {view : SharedString} (hexec : Run.exec (append allocator view) builder = some (.ok (), final)) :
    final.view = (unlimited.append view).view := by
  obtain ⟨outcome, after, result, hdone, hanswers, hafter⟩ := append_spec allocator hbuilder view
  rw [hexec, Option.some.injEq, Prod.mk.injEq] at hdone
  obtain ⟨rfl, rfl⟩ := hdone
  cases hanswers
  rw [hafter.view, (hunlimited.append view).view]

/-- An operation, and what malloc answers during it -/
structure BuilderCall where
  operation : BuilderOperation
  allocator : Allocator

/-- Calls one after another: the outcome of each, and the builder it leaves. -/
def BasicSharedStringBuilder.history (builder : BasicSharedStringBuilder) :
    List BuilderCall → Option (List (Except BuilderException (Option SharedString) × BasicSharedStringBuilder))
  | [] => some []
  | call :: calls => do
    let (outcome, next) ← Run.exec (call.operation.call call.allocator) builder
    let rest ← next.history calls
    return (outcome, next) :: rest

/-- The calls do to a builder what they do to a plain list. A call for a text that is too long throws, one for which there
    is no memory may throw, and a call that throws does nothing to the list. -/
inductive IsListAppend : SharedString → List BuilderCall →
    List (Except BuilderException (Option SharedString) × BasicSharedStringBuilder) → Prop
  | nil (str : SharedString) : IsListAppend str [] []
  | cons {str after : SharedString} {call : BuilderCall} {calls : List BuilderCall}
      {outcome : Except BuilderException (Option SharedString)} {builder : BasicSharedStringBuilder}
      {rest : List (Except BuilderException (Option SharedString) × BasicSharedStringBuilder)} :
      Answers call.allocator str (call.operation.onList str).1 (call.operation.onList str).2 outcome after →
      builder.Holds after → IsListAppend after calls rest → IsListAppend str (call :: calls) ((outcome, builder) :: rest)

theorem BasicSharedStringBuilder.Holds.history {builder : BasicSharedStringBuilder} {str : SharedString}
    (hbuilder : builder.Holds str) (calls : List BuilderCall) :
    ∃ entries, builder.history calls = some entries ∧ IsListAppend str calls entries := by
  induction calls generalizing builder str with
  | nil => exact ⟨[], rfl, .nil str⟩
  | cons call calls ih =>
    obtain ⟨outcome, next, after, hexec, hanswers, hnext⟩ := call.operation.call_spec call.allocator hbuilder
    obtain ⟨rest, hrest, hlist⟩ := ih hnext
    refine ⟨(outcome, next) :: rest, ?_, .cons hanswers hnext hlist⟩
    rw [BasicSharedStringBuilder.history, hexec]
    simp only [Option.bind_eq_bind, Option.bind_some, hrest]
    rfl

/-- A builder is a list, whatever its initial buffer is: every operation leaves it with the text of the list, and within
    its capacity. -/
theorem NewBuilder.history_isListAppend (new : NewBuilder) (calls : List BuilderCall) :
    ∃ entries, new.builder.history calls = some entries ∧ IsListAppend new.str calls entries :=
  new.holds.history calls

end cpv
