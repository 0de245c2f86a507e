import Mathlib.Data.List.Basic
import Cpv.Utility.SharedString

namespace cpv

/-- For appending integer -/
def DecimalDigits : SharedString := text "0123456789"

/-- The loop of `appendImpl`: the digits of an integer, the last one first.
    Division and remainder truncate, so the remainder of a negative value has
    its sign. -/
def appendLoop (value : Int) : SharedString :=
  let rem := value.tmod 10
  let digit := DecimalDigits.getD (if 0 ≤ rem then rem else -rem).toNat 0
  if value.tdiv 10 ≠ 0 then digit :: appendLoop (value.tdiv 10) else [digit]
termination_by value.natAbs
decreasing_by
  rw [Int.natAbs_tdiv]
  have hne : value.natAbs ≠ 0 := by
    rintro hzero
    simp_all [Int.natAbs_eq_zero.mp hzero]
  exact Nat.div_lt_self (Nat.pos_of_ne_zero hne) (by decide)

/-- Append string representation of integer -/
def appendImpl (value : Int) : SharedString :=
  (if value < 0 then [byte '-'] else []) ++ (appendLoop value).reverse

def MaxConstantInteger : Nat := 65535

/-- Construct with string representation of integer. The strings of
    `constants::Integers` are those of `std::to_string`. -/
def fromInteger (value : Int) : SharedString :=
  if 0 ≤ value then
    if value < MaxConstantInteger + 1 then fromInt value.toNat else appendImpl value
  else appendImpl value

theorem fromInt_lt {value : Nat} (h : value < 10) : fromInt value = [DecimalDigits.getD value 0] := by
  have htable : ∀ value : Fin 10, fromInt value = [DecimalDigits.getD value 0] := by decide +kernel
  exact htable ⟨value, h⟩

theorem fromInt_eq {value : Nat} (h : 10 ≤ value) :
    fromInt value = fromInt (value / 10) ++ [DecimalDigits.getD (value % 10) 0] := by
  have hlast : [DecimalDigits.getD (value % 10) 0] = fromInt (value % 10) :=
    (fromInt_lt (Nat.mod_lt _ (by decide))).symm
  rw [hlast]
  simp only [fromInt, text, Nat.repr_eq_ofList_toDigits, String.toList_ofList]
  rw [Nat.toDigits_of_base_le (by decide) h, Nat.toDigits_of_lt_base (Nat.mod_lt value (by decide)),
    List.map_append]

/-- Both loops of `appendImpl` write the decimal digits of the magnitude. -/
theorem appendLoop_eq (value : Int) : appendLoop value = (fromInt value.natAbs).reverse := by
  have hrem (value : Int) : (if 0 ≤ value.tmod 10 then value.tmod 10 else -value.tmod 10).toNat =
      value.natAbs % 10 := by
    have habs : (value.tmod 10).natAbs = value.natAbs % 10 := Int.natAbs_tmod ..
    split <;> omega
  have hdiv (value : Int) : (value.tdiv 10).natAbs = value.natAbs / 10 := Int.natAbs_tdiv value 10
  fun_induction appendLoop value with
  | case1 value rem digit hnext ih =>
    have hten : 10 ≤ value.natAbs := by
      have hquotient := hdiv value
      omega
    rw [ih, fromInt_eq hten, hdiv, List.reverse_append, List.reverse_singleton,
      List.singleton_append]
    exact congrArg (fun i => DecimalDigits.getD i 0 :: _) (hrem value)
  | case2 value rem digit hlast =>
    have hlt : value.natAbs < 10 := by
      have hquotient := hdiv value
      omega
    rw [fromInt_lt hlt, List.reverse_singleton]
    have hdigit := hrem value
    rw [Nat.mod_eq_of_lt hlt] at hdigit
    exact congrArg (fun i => [DecimalDigits.getD i 0]) hdigit

theorem appendImpl_eq (value : Int) :
    appendImpl value = (if value < 0 then [byte '-'] else []) ++ fromInt value.natAbs := by
  rw [appendImpl, appendLoop_eq, List.reverse_reverse]

/-- The table of constants changes nothing. -/
theorem fromInteger_eq (value : Int) :
    fromInteger value = (if value < 0 then [byte '-'] else []) ++ fromInt value.natAbs := by
  unfold fromInteger
  split
  · rename_i hpos
    split
    · rw [if_neg (by omega), List.nil_append, show value.natAbs = value.toNat by omega]
    · exact appendImpl_eq value
  · exact appendImpl_eq value

/-- Class used to build shared string. The buffer has the bytes of its whole capacity. A slice of another string's
    buffer is shared, and whether one was ever written to is remembered. -/
structure SharedStringBuilder where
  buffer : SharedString := []
  size : Nat := 0
  shared : Bool := false
  wroteShared : Bool := false

namespace SharedStringBuilder

/-- Minimal capacity for new buffer allocated from grow (except for grow from empty) -/
def MinCapacityForGrow : Nat := 512

/-- Construct with initial buffer -/
def ofShared (str : SharedString) : SharedStringBuilder := { buffer := str, size := str.length, shared := true }

/-- Construct with initial capacity -/
def ofCapacity (capacity : Nat) : SharedStringBuilder := { buffer := List.replicate capacity 0 }

/-- Grow the buffer for given total size if necessary. The bytes of a new buffer that are not copied are zero here. -/
def reserve (builder : SharedStringBuilder) (newSize : Nat) : SharedStringBuilder :=
  if newSize ≤ builder.buffer.length then builder
  else if builder.size = 0 then { builder with buffer := List.replicate newSize 0, shared := false }
  else
    let capacity := max (max newSize (builder.buffer.length * 2)) MinCapacityForGrow
    { builder with
      buffer := builder.buffer.take builder.size ++ List.replicate (capacity - builder.size) 0
      shared := false }

/-- Append string view to end -/
def append (builder : SharedStringBuilder) (view : SharedString) : SharedStringBuilder :=
  if view = [] then builder
  else
    let newSize := builder.size + view.length
    let grown := builder.reserve newSize
    { grown with
      buffer := grown.buffer.take builder.size ++ view ++ grown.buffer.drop newSize
      size := newSize
      wroteShared := grown.wroteShared || grown.shared }

/-- Get the view of result string -/
def view (builder : SharedStringBuilder) : SharedString := builder.buffer.take builder.size

/-- Get the result string, the builder will become empty after invoked -/
def build (builder : SharedStringBuilder) : SharedString × SharedStringBuilder :=
  (builder.view, { wroteShared := builder.wroteShared })

/-- The view is within the buffer, and a shared buffer has no room behind it. -/
structure WellFormed (builder : SharedStringBuilder) : Prop where
  size_le : builder.size ≤ builder.buffer.length
  shared_full : builder.shared → builder.size = builder.buffer.length
  wroteShared : builder.wroteShared = false

theorem wellFormed_empty : WellFormed {} := ⟨by simp, by simp, rfl⟩

theorem wellFormed_ofShared (str : SharedString) : (ofShared str).WellFormed := ⟨Nat.le_refl _, fun _ => rfl, rfl⟩

theorem wellFormed_ofCapacity (capacity : Nat) : (ofCapacity capacity).WellFormed := ⟨Nat.zero_le _, by simp [ofCapacity], rfl⟩

@[simp] theorem view_ofShared (str : SharedString) : (ofShared str).view = str := List.take_length

/-- Growing leaves the view, and makes room for the new size in a buffer of its own. -/
theorem WellFormed.reserve {builder : SharedStringBuilder} (hbuilder : builder.WellFormed) {newSize : Nat}
    (hsize : builder.size < newSize) :
    (builder.reserve newSize).view = builder.view ∧ (builder.reserve newSize).size = builder.size ∧
      newSize ≤ (builder.reserve newSize).buffer.length ∧ (builder.reserve newSize).shared = false ∧
      (builder.reserve newSize).wroteShared = false := by
  have hle := hbuilder.size_le
  unfold SharedStringBuilder.reserve view
  split
  · rename_i hroom
    refine ⟨rfl, rfl, hroom, ?_, hbuilder.wroteShared⟩
    by_contra hshared
    have hfull := hbuilder.shared_full (by simpa using hshared)
    omega
  · split
    · rename_i hzero
      exact ⟨by simp [hzero], rfl, by simp, rfl, hbuilder.wroteShared⟩
    · refine ⟨?_, rfl, ?_, rfl, hbuilder.wroteShared⟩
      · simp [hle]
      · simp [hle]
        omega

/-- Growing for any size, also for one that is smaller than what is there, leaves the view. -/
theorem WellFormed.wellFormed_reserve {builder : SharedStringBuilder} (hbuilder : builder.WellFormed) (newSize : Nat) :
    (builder.reserve newSize).WellFormed ∧ (builder.reserve newSize).view = builder.view := by
  by_cases hroom : newSize ≤ builder.buffer.length
  · rw [SharedStringBuilder.reserve, if_pos hroom]
    exact ⟨hbuilder, rfl⟩
  · have hle := hbuilder.size_le
    obtain ⟨hview, hsize, hlength, hshared, hwrote⟩ := @WellFormed.reserve _ hbuilder newSize (by omega)
    exact ⟨⟨by omega, by simp [hshared], hwrote⟩, hview⟩

/-- Appending makes the view longer and never writes to a shared buffer. -/
theorem WellFormed.append {builder : SharedStringBuilder} (hbuilder : builder.WellFormed) (view : SharedString) :
    (builder.append view).WellFormed ∧ (builder.append view).view = builder.view ++ view := by
  unfold SharedStringBuilder.append
  split
  · rename_i hempty
    exact ⟨hbuilder, by rw [hempty, List.append_nil]⟩
  · rename_i hne
    have hlt : builder.size < builder.size + view.length := by
      have hpos := List.length_pos_of_ne_nil hne
      omega
    obtain ⟨hview, hsize, hroom, hshared, hwrote⟩ := hbuilder.reserve hlt
    rw [SharedStringBuilder.view, hsize] at hview
    dsimp only
    generalize builder.reserve (builder.size + view.length) = grown at *
    have hlength : (grown.buffer.take builder.size).length = builder.size := by
      rw [List.length_take]
      omega
    refine ⟨⟨?_, ?_, ?_⟩, ?_⟩
    · simp only [List.length_append, hlength]
      omega
    · simp [hshared]
    · simp [hshared, hwrote]
    · simp only [SharedStringBuilder.view]
      rw [List.take_left' (by rw [List.length_append, hlength]), hview]
      rfl

end SharedStringBuilder

/-- What a builder has been given to append. -/
structure SharedStringBuilder.Built (builder : SharedStringBuilder) (str : SharedString) : Prop where
  wellFormed : builder.WellFormed
  view : builder.view = str

namespace SharedStringBuilder.Built

variable {builder : SharedStringBuilder} {str : SharedString}

theorem ofCapacity (capacity : Nat) : (ofCapacity capacity).Built [] := ⟨wellFormed_ofCapacity capacity, rfl⟩

theorem append (hbuilder : builder.Built str) (view : SharedString) : (builder.append view).Built (str ++ view) := by
  obtain ⟨hwellFormed, hview⟩ := hbuilder.wellFormed.append view
  exact ⟨hwellFormed, hview.trans (by rw [hbuilder.view])⟩

/-- What is appended under a condition is there under the condition. -/
theorem ite {after : SharedStringBuilder} {more : SharedString} (hbuilder : builder.Built str) (condition : Prop)
    [Decidable condition] (hafter : after.Built (str ++ more)) :
    (if condition then after else builder).Built (str ++ if condition then more else []) := by
  split
  · exact hafter
  · rwa [List.append_nil]

theorem option (hbuilder : builder.Built str) {α : Type} (part : Option α) {after : α → SharedStringBuilder}
    {more : α → SharedString} (hafter : ∀ a, (after a).Built (str ++ more a)) :
    (part.elim builder after).Built (str ++ (part.map more).getD []) := by
  cases part with
  | none => rwa [Option.map_none, Option.getD_none, List.append_nil]
  | some a => exact hafter a

/-- The text that is built is what was appended. -/
theorem build (hbuilder : builder.Built str) : builder.build.1 = str := hbuilder.view

theorem append_append (hbuilder : builder.Built str) (first second : SharedString) :
    ((builder.append first).append second).Built (str ++ (first ++ second)) := by
  rw [← List.append_assoc]
  exact (hbuilder.append first).append second

end SharedStringBuilder.Built

end cpv
