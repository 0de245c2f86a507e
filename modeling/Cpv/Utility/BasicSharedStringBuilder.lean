import Cpv.Core.Run
import Cpv.Utility.DecimalText

namespace cpv

/-- The largest value of size_t -/
def SizeMax : Nat := 2 ^ 64 - 1

/-- No object is larger than the largest difference of two pointers. -/
def PtrDiffMax : Nat := 2 ^ 63 - 1

/-- The bytes of a string that a builder writes to -/
structure Buffer where
  bytes : SharedString := []
  length_le : bytes.length ≤ PtrDiffMax := by simp

namespace Buffer

def empty : Buffer := {}

/-- Write to the buffer from an offset on. Nothing is defined beyond its end. -/
def write (buffer : Buffer) (offset : Nat) (values : SharedString) : Option Buffer :=
  if hfits : offset + values.length ≤ buffer.bytes.length then
    some
      { bytes := buffer.bytes.take offset ++ values ++ buffer.bytes.drop (offset + values.length)
        length_le := by
          have hle := buffer.length_le
          simp only [List.length_append, List.length_take, List.length_drop]
          omega }
  else none

theorem write_spec (buffer : Buffer) (offset : Nat) (values : SharedString)
    (hfits : offset + values.length ≤ buffer.bytes.length) :
    ∃ after, buffer.write offset values = some after ∧ after.bytes.length = buffer.bytes.length ∧
      after.bytes.take (offset + values.length) = buffer.bytes.take offset ++ values := by
  refine ⟨_, dif_pos hfits, ?_, ?_⟩
  · simp only [List.length_append, List.length_take, List.length_drop]
    omega
  · rw [List.take_left' (by rw [List.length_append, List.length_take]; omega)]

end Buffer

/-- The answers of malloc: a buffer of the size that was asked for, with any bytes, or none. -/
structure Allocator where
  malloc : Nat → Option Buffer
  length_malloc : ∀ size buffer, malloc size = some buffer → buffer.bytes.length = size

inductive BuilderException
  | overflow (message : SharedString)
  | badAlloc
deriving DecidableEq

/-- The rounds of the loop in `getMaxStringSize`, of which there are at most as many as the type has bits -/
def getMaxStringSizeLoop (base : Nat) : Nat → Nat → Nat → Nat
  | 0, result, _ => result
  | rounds + 1, result, max => if base ≤ max then getMaxStringSizeLoop base rounds (result + 1) (max / base) else result

/-- Get max string size of integer, doesn't include zero terminator -/
def getMaxStringSize (type : IntType) (base : Nat) : Nat :=
  getMaxStringSizeLoop base type.width (if type.signed then 2 else 1) type.max.toNat

/-- Class used to build shared string. It can grow the internal buffer automatically when append new contents. -/
structure BasicSharedStringBuilder where
  buffer : Buffer := .empty
  size : Nat := 0

namespace BasicSharedStringBuilder

/-- Minimal capacity for new buffer allocated from grow (except for grow from empty) -/
def MinCapacityForGrow : Nat := 512

def capacity (builder : BasicSharedStringBuilder) : Nat := builder.buffer.bytes.length

/-- Get the view of result string -/
def view (builder : BasicSharedStringBuilder) : SharedString := builder.buffer.bytes.take builder.size

/-- A computation on the builder -/
abbrev Builds := Run BuilderException BasicSharedStringBuilder

/-- A new string of a given size -/
def allocate (allocator : Allocator) (size : Nat) : Builds Buffer :=
  match allocator.malloc size with
  | some buffer => return buffer
  | none => throw .badAlloc

/-- Grow the buffer for given total size if necessary -/
def reserve (allocator : Allocator) (newSize : Nat) : Builds Unit := do
  let builder ← get
  if newSize ≤ builder.capacity then return ()
  else if builder.size = 0 then
    let buffer ← allocate allocator newSize
    modify fun builder => { builder with buffer }
  else
    -- the doubled size wraps around, and the larger of the sizes is still large enough
    let newBuffer ← allocate allocator
      (max (max newSize (builder.capacity * 2 % (SizeMax + 1))) MinCapacityForGrow)
    let buffer ← Run.ofOption (newBuffer.write 0 (builder.buffer.bytes.take builder.size))
    modify fun builder => { builder with buffer }

/-- Grow the buffer for newly append size if necessary and update the view. The result is the offset in the buffer. -/
def grow (allocator : Allocator) (appendSize : Nat) : Builds Nat := do
  let oldSize := (← get).size
  if SizeMax - oldSize < appendSize then throw (.overflow (text "size overflowed"))
  else
    let newSize := oldSize + appendSize
    reserve allocator newSize
    modify fun builder => { builder with size := newSize }
    return oldSize

/-- Write to the buffer from an offset on. -/
def write (offset : Nat) (values : SharedString) : Builds Unit := do
  let buffer ← Run.ofOption ((← get).buffer.write offset values)
  modify fun builder => { builder with buffer }

/-- Append count copies of character c to the end -/
def appendCopies (allocator : Allocator) (count : Nat) (c : UInt8) : Builds Unit := do
  let offset ← grow allocator count
  write offset (List.replicate count c)

/-- Append string view to end -/
def append (allocator : Allocator) (view : SharedString) : Builds Unit :=
  if view ≠ [] then do
    let offset ← grow allocator view.length
    write offset view
  else return ()

/-- What `appendImpl` writes to the room for the longest text of the type, and nothing where it would write beyond it.
    `remType` is the type of the variable for the remainder. -/
def integerText (type remType : IntType) (value : Int) : Option SharedString := do
  let room : OutputBuffer UInt8 (getMaxStringSize type 10) := {}
  let sign ← (if value < 0 then room.write [byte '-'] else some room : Option _)
  let ptrStart := sign.written.length
  let (_, final) ← Loop.run (digitRound type remType fun room c => room.write [c]) (value.natAbs + 1) (value, sign)
  return final.written.take ptrStart ++ (final.written.drop ptrStart).reverse

/-- Append string representation of signed or unsigned integer to end -/
def appendImpl (allocator : Allocator) (type remType : IntType) (value : Int) : Builds Unit := do
  let offset ← grow allocator (getMaxStringSize type 10)
  let values ← Run.ofOption (integerText type remType value)
  write offset values
  modify fun builder => { builder with size := offset + values.length }

/-- Append string representation of integer to end -/
def appendInteger (allocator : Allocator) (type : IntType) (value : Int) : Builds Unit :=
  if type.signed then appendImpl allocator .int64 .int32 value else appendImpl allocator .uint64 .uint32 value

/-- Resize the view of result string, the size must not greater than the capacity -/
def resize (size : Nat) : Builds Unit := do
  let builder ← get
  if size ≤ builder.capacity then modify fun builder => { builder with size } else Run.diverge

/-- Reset the view of result string (capacity will remain) -/
def clear : Builds Unit := modify fun builder => { builder with size := 0 }

/-- Get the result string, the builder will become empty after invoked -/
def build : Builds SharedString := do
  let builder ← get
  modify fun _ => {}
  return builder.view

/-- The builder has a text. -/
structure Holds (builder : BasicSharedStringBuilder) (str : SharedString) : Prop where
  size_le_capacity : builder.size ≤ builder.capacity
  view : builder.view = str

namespace Holds

variable {builder : BasicSharedStringBuilder} {str : SharedString}

theorem size_eq (hbuilder : builder.Holds str) : builder.size = str.length := by
  rw [← hbuilder.view, BasicSharedStringBuilder.view, List.length_take]
  exact (Nat.min_eq_left hbuilder.size_le_capacity).symm

theorem size_le (hbuilder : builder.Holds str) : builder.size ≤ PtrDiffMax :=
  hbuilder.size_le_capacity.trans builder.buffer.length_le

end Holds

section Grow

variable {allocator : Allocator} {builder : BasicSharedStringBuilder} {str : SharedString}

/-- Malloc has refused a buffer for so many bytes, and nothing has changed. -/
def OutOfMemory (allocator : Allocator) (least : Nat) {α : Type} (call : Builds α) (builder : BasicSharedStringBuilder) :
    Prop :=
  Run.exec call builder = some (.error .badAlloc, builder) ∧ ∃ size, least ≤ size ∧ allocator.malloc size = none

theorem allocate_spec (allocator : Allocator) (size : Nat) (builder : BasicSharedStringBuilder) :
    (∃ buffer, Run.exec (allocate allocator size) builder = some (.ok buffer, builder) ∧ buffer.bytes.length = size) ∨
      OutOfMemory allocator size (allocate allocator size) builder := by
  unfold OutOfMemory allocate
  cases hmalloc : allocator.malloc size with
  | none => exact .inr ⟨rfl, size, le_rfl, hmalloc⟩
  | some buffer => exact .inl ⟨buffer, rfl, allocator.length_malloc size buffer hmalloc⟩

theorem OutOfMemory.bind {α β : Type} {least : Nat} {call : Builds α} (hcall : OutOfMemory allocator least call builder)
    (next : α → Builds β) : OutOfMemory allocator least (call >>= next) builder :=
  ⟨Run.exec_bind_error hcall.1, hcall.2⟩

/-- The bytes of the view are kept, whichever way the buffer grows. -/
theorem reserve_spec (allocator : Allocator) (hbuilder : builder.Holds str) (newSize : Nat) :
    (∃ buffer, Run.exec (reserve allocator newSize) builder = some (.ok (), { builder with buffer }) ∧
        newSize ≤ buffer.bytes.length ∧ { builder with buffer }.Holds str) ∨
      OutOfMemory allocator newSize (reserve allocator newSize) builder := by
  have hview := hbuilder.view
  rw [BasicSharedStringBuilder.view] at hview
  by_cases hroom : newSize ≤ builder.capacity
  · refine .inl ⟨builder.buffer, ?_, hroom, hbuilder⟩
    rw [reserve, Run.exec_bind_ok (Run.exec_get builder), if_pos hroom]
    rfl
  by_cases hempty : builder.size = 0
  · have hreserve : Run.exec (reserve allocator newSize) builder = Run.exec (do
        let buffer ← allocate allocator newSize
        modify fun builder : BasicSharedStringBuilder => { builder with buffer }) builder := by
      rw [reserve, Run.exec_bind_ok (Run.exec_get builder), if_neg hroom, if_pos hempty]
    rcases allocate_spec allocator newSize builder with ⟨buffer, hallocate, hlength⟩ | hfailed
    · refine .inl ⟨buffer, ?_, hlength.ge, ⟨?_, ?_⟩⟩
      · rw [hreserve, Run.exec_bind_ok hallocate, Run.exec_modify]
      · rw [hempty]
        exact Nat.zero_le _
      · rw [hempty, List.take_zero] at hview
        rw [BasicSharedStringBuilder.view, hempty, List.take_zero, hview]
    · exact .inr ⟨hreserve.trans (hfailed.bind _).1, hfailed.2⟩
  · generalize hsize : max (max newSize (builder.capacity * 2 % (SizeMax + 1))) MinCapacityForGrow = size
    have hreserve : Run.exec (reserve allocator newSize) builder = Run.exec (do
        let newBuffer ← allocate allocator size
        let buffer ← Run.ofOption (newBuffer.write 0 (builder.buffer.bytes.take builder.size))
        modify fun builder : BasicSharedStringBuilder => { builder with buffer }) builder := by
      rw [reserve, Run.exec_bind_ok (Run.exec_get builder), if_neg hroom, if_neg hempty, hsize]
    rcases allocate_spec allocator size builder with ⟨newBuffer, hallocate, hlength⟩ | hfailed
    · have hcopied : (builder.buffer.bytes.take builder.size).length = builder.size := by
        rw [hview, hbuilder.size_eq]
      have hfits := hbuilder.size_le_capacity
      obtain ⟨buffer, hwrite, hsame, htake⟩ := newBuffer.write_spec 0 (builder.buffer.bytes.take builder.size)
        (by omega)
      rw [Nat.zero_add, hcopied, List.take_zero, List.nil_append, hview] at htake
      refine .inl ⟨buffer, ?_, by omega, ⟨?_, htake⟩⟩
      · rw [hreserve, Run.exec_bind_ok hallocate, hwrite]
        rfl
      · show builder.size ≤ buffer.bytes.length
        omega
    · obtain ⟨refused, hle, hrefused⟩ := hfailed.2
      exact .inr ⟨hreserve.trans (hfailed.bind _).1, refused, by omega, hrefused⟩

theorem grow_overflow (allocator : Allocator) (hbuilder : builder.Holds str) (appendSize : Nat)
    (hoverflow : SizeMax < str.length + appendSize) :
    Run.exec (grow allocator appendSize) builder = some (.error (.overflow (text "size overflowed")), builder) := by
  have hsize := hbuilder.size_eq
  have hle := hbuilder.size_le
  rw [grow, Run.exec_bind_ok (Run.exec_get builder), if_pos (by unfold SizeMax PtrDiffMax at *; omega), Run.exec_throw]

/-- The room that is made stands behind the text. -/
theorem grow_spec (allocator : Allocator) (hbuilder : builder.Holds str) {appendSize : Nat}
    (hfits : str.length + appendSize ≤ SizeMax) :
    (∃ buffer, Run.exec (grow allocator appendSize) builder =
          some (.ok str.length, { buffer, size := str.length + appendSize }) ∧
        str.length + appendSize ≤ buffer.bytes.length ∧ buffer.bytes.take str.length = str) ∨
      OutOfMemory allocator (str.length + appendSize) (grow allocator appendSize) builder := by
  have hsize := hbuilder.size_eq
  have hgrow : Run.exec (grow allocator appendSize) builder = Run.exec (do
      reserve allocator (str.length + appendSize)
      modify fun builder : BasicSharedStringBuilder => { builder with size := str.length + appendSize }
      return str.length) builder := by
    rw [grow, Run.exec_bind_ok (Run.exec_get builder), if_neg (by omega), hsize]
  rcases reserve_spec allocator hbuilder (str.length + appendSize) with ⟨buffer, hreserve, hroom, hgrown⟩ | hfailed
  · refine .inl ⟨buffer, ?_, hroom, ?_⟩
    · rw [hgrow, Run.exec_bind_ok hreserve]
      rfl
    · rw [← hsize]
      exact hgrown.view
  · exact .inr ⟨hgrow.trans (hfailed.bind _).1, hfailed.2⟩

end Grow

/-- What may come of a call that should give a result and leave the builder with a text: it does so, or it throws and
    the text is what it was before. It throws for a text that is too long, and where malloc refuses a buffer for the text. -/
inductive Answers (allocator : Allocator) (before : SharedString) {Result : Type} (result : Result) (after : SharedString) :
    Except BuilderException Result → SharedString → Prop
  | done : after.length ≤ SizeMax → Answers allocator before result after (.ok result) after
  | overflow : SizeMax < after.length →
      Answers allocator before result after (.error (.overflow (text "size overflowed"))) before
  | badAlloc : after.length ≤ SizeMax → (∃ size, after.length ≤ size ∧ allocator.malloc size = none) →
      Answers allocator before result after (.error .badAlloc) before

/-- The call comes back from the builder with one of these answers. -/
def Does (allocator : Allocator) {Result : Type} (call : Builds Result) (builder : BasicSharedStringBuilder)
    (before : SharedString) (result : Result) (after : SharedString) : Prop :=
  ∃ outcome final str, Run.exec call builder = some (outcome, final) ∧
    Answers allocator before result after outcome str ∧ final.Holds str

section Append

variable {allocator : Allocator} {builder : BasicSharedStringBuilder} {str : SharedString}

/-- A text is put behind the text of the builder, in the room that `grow` makes for it. -/
theorem grow_fill (hbuilder : builder.Holds str) {appendSize : Nat} {values : SharedString} {fill : Nat → Builds Unit}
    (hvalues : values.length ≤ appendSize)
    (hoverflow : SizeMax < str.length + appendSize → SizeMax < str.length + values.length)
    (hfill : ∀ buffer : Buffer, str.length + appendSize ≤ buffer.bytes.length → buffer.bytes.take str.length = str →
      ∃ after, Run.exec (fill str.length) { buffer, size := str.length + appendSize } = some (.ok (), after) ∧
        after.Holds (str ++ values)) :
    Does allocator (grow allocator appendSize >>= fill) builder str () (str ++ values) := by
  have hlength : (str ++ values).length = str.length + values.length := List.length_append
  by_cases hfits : str.length + appendSize ≤ SizeMax
  · rcases grow_spec allocator hbuilder hfits with ⟨buffer, hgrow, hroom, htake⟩ | hfailed
    · obtain ⟨after, hexec, hafter⟩ := hfill buffer hroom htake
      exact ⟨_, after, _, (Run.exec_bind_ok hgrow).trans hexec, .done (by omega), hafter⟩
    · obtain ⟨refused, hle, hrefused⟩ := hfailed.2
      exact ⟨_, builder, _, (hfailed.bind _).1, .badAlloc (by omega) ⟨refused, by omega, hrefused⟩, hbuilder⟩
  · have hgrow := grow_overflow allocator hbuilder appendSize (by omega)
    exact ⟨_, builder, _, Run.exec_bind_error hgrow, .overflow (by rw [hlength]; exact hoverflow (by omega)), hbuilder⟩

/-- Writing behind the text, in the room there is -/
theorem write_spec {buffer : Buffer} (size : Nat) (values : SharedString)
    (hroom : str.length + values.length ≤ buffer.bytes.length) (htake : buffer.bytes.take str.length = str) :
    ∃ after : Buffer, Run.exec (write str.length values) { buffer, size } = some (.ok (), { buffer := after, size }) ∧
      { buffer := after, size := str.length + values.length : BasicSharedStringBuilder }.Holds (str ++ values) := by
  obtain ⟨after, hwrite, hlength, hwritten⟩ := buffer.write_spec str.length values hroom
  refine ⟨after, ?_, hroom.trans hlength.ge, ?_⟩
  · rw [write, Run.exec_bind_ok (Run.exec_get _), Run.exec_bind, Run.exec_ofOption, hwrite]
    rfl
  · rw [BasicSharedStringBuilder.view, hwritten, htake]

theorem appendCopies_spec (allocator : Allocator) (hbuilder : builder.Holds str) (count : Nat) (c : UInt8) :
    Does allocator (appendCopies allocator count c) builder str () (str ++ List.replicate count c) := by
  have hlength : (List.replicate count c).length = count := List.length_replicate
  refine grow_fill hbuilder hlength.le (by rw [hlength]; exact id) fun buffer hroom htake => ?_
  obtain ⟨after, hexec, hafter⟩ := write_spec (str.length + count) (List.replicate count c)
    (by rw [hlength]; exact hroom) htake
  rw [hlength] at hafter
  exact ⟨_, hexec, hafter⟩

theorem append_spec (allocator : Allocator) (hbuilder : builder.Holds str) (view : SharedString) :
    Does allocator (append allocator view) builder str () (str ++ view) := by
  unfold append
  split
  · refine grow_fill hbuilder le_rfl id fun buffer hroom htake => ?_
    obtain ⟨after, hexec, hafter⟩ := write_spec (str.length + view.length) view hroom htake
    exact ⟨_, hexec, hafter⟩
  · rename_i hempty
    have hle := hbuilder.size_le
    rw [hbuilder.size_eq] at hle
    rw [not_not] at hempty
    rw [hempty, List.append_nil]
    exact ⟨_, builder, _, Run.exec_pure () builder, .done (by unfold SizeMax PtrDiffMax at *; omega), hbuilder⟩

end Append

section Integers

/-- A number below a power of ten has no more digits than the power. -/
theorem length_fromInt_le (digits : Nat) {value : Nat} (hvalue : value < 10 ^ (digits + 1)) :
    (fromInt value).length ≤ digits + 1 := by
  induction digits generalizing value with
  | zero => rw [fromInt_lt (by omega), List.length_singleton]
  | succ digits ih =>
    by_cases hlt : value < 10
    · rw [fromInt_lt hlt, List.length_singleton]
      omega
    · have hquotient : (fromInt (value / 10)).length ≤ digits + 1 := ih (by rw [pow_succ] at hvalue; omega)
      rw [fromInt_eq (by omega), List.length_append, List.length_singleton]
      omega

theorem length_decimalText_int64 {value : Int} (hvalue : IntType.int64.Fits value) :
    (decimalText value).length ≤ getMaxStringSize .int64 10 := by
  obtain ⟨hlow, hhigh⟩ := hvalue
  simp [IntType.int64, IntType.min, IntType.max] at hlow hhigh
  have hdigits : (fromInt value.natAbs).length ≤ 19 := length_fromInt_le 18 (by omega)
  show _ ≤ 20
  unfold decimalText
  rw [List.length_append]
  split <;> simp only [List.length_singleton, List.length_nil] <;> omega

theorem length_decimalText_uint64 {value : Int} (hvalue : IntType.uint64.Fits value) :
    (decimalText value).length ≤ getMaxStringSize .uint64 10 := by
  obtain ⟨hlow, hhigh⟩ := hvalue
  simp [IntType.uint64, IntType.min, IntType.max] at hlow hhigh
  show _ ≤ 20
  rw [decimalText, if_neg (by omega), List.nil_append]
  refine length_fromInt_le 19 ?_
  show value.natAbs < 10 ^ 20
  omega

/-- The text of an integer is written without an overflow and within the room for it. -/
theorem integerText_eq {type remType : IntType} {value : Int} (hrem : HoldsRemainders type remType)
    (hvalue : type.Fits value) (hroom : (decimalText value).length ≤ getMaxStringSize type 10) :
    integerText type remType value = some (decimalText value) := by
  rw [decimalText, List.length_append] at hroom
  have hsign : ∃ sign : OutputBuffer UInt8 (getMaxStringSize type 10),
      (if value < 0 then ({} : OutputBuffer UInt8 (getMaxStringSize type 10)).write [byte '-'] else some {}) = some sign ∧
        sign.written = if value < 0 then [byte '-'] else [] := by
    split
    · rename_i hneg
      rw [if_pos hneg] at hroom
      exact OutputBuffer.write_spec [byte '-'] ((Nat.le_add_right _ _).trans hroom)
    · exact ⟨{}, rfl, rfl⟩
  obtain ⟨sign, hsign, hstart⟩ := hsign
  obtain ⟨⟨_, final⟩, hrun, hwritten⟩ := run_digitRound (fun room c => room.write [c]) hrem OutputBuffer.written _
    (fun out c hlt => OutputBuffer.write_spec [c] hlt) hvalue sign (by rw [hstart]; exact hroom)
  dsimp only at hwritten
  rw [integerText, hsign]
  simp only [Option.bind_eq_bind, Option.bind_some, hrun, hwritten, List.take_left, List.drop_left, List.reverse_reverse]
  rw [decimalText, hstart]
  rfl

theorem appendImpl_spec {builder : BasicSharedStringBuilder} {str : SharedString} (allocator : Allocator)
    (hbuilder : builder.Holds str) {type remType : IntType} {value : Int} (hrem : HoldsRemainders type remType)
    (hvalue : type.Fits value) (hroom : (decimalText value).length ≤ getMaxStringSize type 10)
    (hsize : getMaxStringSize type 10 ≤ 20) :
    Does allocator (appendImpl allocator type remType value) builder str () (str ++ decimalText value) := by
  have hle := hbuilder.size_le
  rw [hbuilder.size_eq] at hle
  refine grow_fill hbuilder hroom (fun hoverflow => ?_) fun buffer hbuffer htake => ?_
  · unfold SizeMax PtrDiffMax at *
    omega
  · obtain ⟨after, hexec, hafter⟩ := write_spec (str.length + getMaxStringSize type 10)
      (decimalText value) (by omega) htake
    refine ⟨_, ?_, hafter⟩
    rw [integerText_eq hrem hvalue hroom, Run.exec_bind, Run.exec_ofOption]
    exact (Run.exec_bind_ok hexec).trans (Run.exec_modify ..)

/-- Every value of every type is appended as its canonical text. -/
theorem appendInteger_spec {builder : BasicSharedStringBuilder} {str : SharedString} (allocator : Allocator)
    (hbuilder : builder.Holds str) (type : IntType) (value : type.Value) :
    Does allocator (appendInteger allocator type value) builder str () (str ++ decimalText value) := by
  unfold appendInteger
  split
  · rename_i hsigned
    have hvalue : IntType.int64.Fits value := value.2.widen_signed hsigned
    exact appendImpl_spec allocator hbuilder (holdsRemainders_of_signed _ rfl) hvalue (length_decimalText_int64 hvalue)
      (by decide)
  · rename_i hsigned
    have hvalue : IntType.uint64.Fits value := value.2.widen_unsigned hsigned
    exact appendImpl_spec allocator hbuilder (holdsRemainders_of_unsigned (by decide) _) hvalue
      (length_decimalText_uint64 hvalue) (by decide)

end Integers

end BasicSharedStringBuilder

end cpv
