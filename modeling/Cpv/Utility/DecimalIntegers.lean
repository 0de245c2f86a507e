import Cpv.Utility.BuilderHistory

namespace cpv

open BasicSharedStringBuilder

/-- Construct with string representation of integer. There is no result where an operation has none. -/
def fromIntImpl (allocator : Allocator) (type : IntType) (value : Int) : Option (Except BuilderException SharedString) :=
  (Run.exec (do appendInteger allocator type value; build) {}).map Prod.fst

/-- Construct with string representation of integer. The strings of `constants::Integers` are those of
    `std::to_string`. -/
def fromIntOf (allocator : Allocator) (type : IntType) (value : Int) : Option (Except BuilderException SharedString) :=
  if type.signed then
    if 0 ≤ value then
      if value < MaxConstantInteger + 1 then some (.ok (fromInt value.toNat)) else fromIntImpl allocator .uint64 value
    else fromIntImpl allocator .int64 value
  else if value < MaxConstantInteger + 1 then some (.ok (fromInt value.toNat))
  else fromIntImpl allocator .uint64 value

/-- A string that a new builder builds, unless malloc refuses its buffer -/
def Makes (allocator : Allocator) (made : Option (Except BuilderException SharedString)) (str : SharedString) : Prop :=
  ∃ outcome, made = some outcome ∧
    (outcome = .ok str ∨ outcome = .error .badAlloc ∧ ∃ size, str.length ≤ size ∧ allocator.malloc size = none)

/-- The table of constants changes nothing, and neither does the type of the implementation. -/
theorem fromIntImpl_makes (allocator : Allocator) (type : IntType) (value : type.Value) :
    Makes allocator (fromIntImpl allocator type value) (decimalText value) := by
  obtain ⟨outcome, final, str, hexec, hanswers, hfinal⟩ :=
    appendInteger_spec allocator NewBuilder.empty.holds type value
  have hlength : (decimalText value).length ≤ SizeMax := by
    have hle : (decimalText value).length ≤ 20 := by
      by_cases hsigned : type.signed
      · exact length_decimalText_int64 (value.2.widen_signed hsigned)
      · exact length_decimalText_uint64 (value.2.widen_unsigned hsigned)
    exact hle.trans (by decide)
  have hempty : NewBuilder.empty.str ++ decimalText value = decimalText value := rfl
  rw [hempty] at hanswers
  cases hanswers with
  | done =>
    refine ⟨.ok (decimalText value), ?_, .inl rfl⟩
    rw [fromIntImpl]
    show (Run.exec _ NewBuilder.empty.builder).map Prod.fst = _
    rw [Run.exec_bind_ok hexec]
    show some (Except.ok final.view) = _
    rw [hfinal.view]
  | overflow hlt => omega
  | badAlloc _ hrefused =>
    refine ⟨.error .badAlloc, ?_, .inr ⟨rfl, hrefused⟩⟩
    rw [fromIntImpl]
    show (Run.exec _ NewBuilder.empty.builder).map Prod.fst = _
    rw [Run.exec_bind_error hexec]
    rfl

theorem fromIntOf_makes (allocator : Allocator) (type : IntType) (value : type.Value) :
    Makes allocator (fromIntOf allocator type value) (decimalText value) := by
  have htable (hpos : 0 ≤ (value : Int)) : Makes allocator (some (.ok (fromInt (value : Int).toNat))) (decimalText value) := by
    refine ⟨_, rfl, .inl ?_⟩
    rw [decimalText, if_neg (by omega), List.nil_append, show (value : Int).natAbs = (value : Int).toNat by omega]
  unfold fromIntOf
  split
  · rename_i hsigned
    have hint64 := value.2.widen_signed hsigned
    split
    · rename_i hpos
      have huint64 : IntType.uint64.Fits (value : Int) := by
        have hhigh := hint64.2
        constructor <;> simp [IntType.int64, IntType.uint64, IntType.min, IntType.max] at * <;> omega
      split
      · exact htable hpos
      · exact fromIntImpl_makes allocator .uint64 ⟨value, huint64⟩
    · exact fromIntImpl_makes allocator .int64 ⟨value, hint64⟩
  · rename_i hsigned
    have huint64 := value.2.widen_unsigned hsigned
    split
    · exact htable huint64.1
    · exact fromIntImpl_makes allocator .uint64 ⟨value, huint64⟩

/-- A value is written as its canonical text by each of the writers, within the room there is, and is read back from it.
    None of the operations overflows. -/
structure RoundTrips (type : IntType) (value : type.Value) : Prop where
  dumpIntToDec : ∀ str, dumpIntToDec type value str = some (str ++ decimalText value)
  append : ∀ allocator builder str, Holds builder str →
    Does allocator (appendInteger allocator type value) builder str () (str ++ decimalText value)
  fromInt : ∀ allocator, Makes allocator (fromIntOf allocator type value) (decimalText value)
  loadIntFromDec : loadIntFromDecOf type (decimalText value) = some (some (value : Int))

/-- The magnitude of the minimum of int and of the wider signed type is no value of the type, but that of the minimum of
    a narrower type is an int. -/
theorem loadIntFromDecOf_min (type : IntType) (hsigned : type.signed) :
    loadIntFromDecOf type (decimalText type.min) = if 32 ≤ type.width then none else some (some type.min) := by
  refine IntType.forall_type (P := fun type => type.signed → loadIntFromDecOf type (decimalText type.min) =
    if 32 ≤ type.width then none else some (some type.min)) (fun signed => ?_) type hsigned
  cases signed with
  | false => simp
  | true => decide +kernel

/-- Every value makes the round trip but the minimum of a signed type that is not narrower than int. Reading its text
    overflows before the sign is looked at. -/
theorem roundTrips_iff (type : IntType) (value : type.Value) :
    RoundTrips type value ↔ ¬ (type.signed ∧ 32 ≤ type.width ∧ (value : Int) = type.min) := by
  constructor
  · rintro htrips ⟨hsigned, hwidth, hmin⟩
    have hload := htrips.loadIntFromDec
    rw [hmin, loadIntFromDecOf_min type hsigned, if_pos hwidth] at hload
    cases hload
  · intro hvalue
    refine ⟨dumpIntToDec_eq value.2, fun allocator builder str hbuilder =>
      appendInteger_spec allocator hbuilder type value, fun allocator => fromIntOf_makes allocator type value, ?_⟩
    by_cases hmin : type.signed ∧ (value : Int) = type.min
    · rw [hmin.2, loadIntFromDecOf_min type hmin.1, if_neg fun hwidth => hvalue ⟨hmin.1, hwidth, hmin.2⟩]
    · exact loadIntFromDecOf_decimalText value.2 fun hsigned heq => hmin ⟨hsigned, heq⟩

/-- The text of the minimum of int is not read. -/
theorem not_roundTrips_min_int32 : ¬ RoundTrips .int32 ⟨-2147483648, by decide⟩ := by
  intro htrips
  have hload := htrips.loadIntFromDec
  have hoverflow := loadIntFromDecOf_min .int32 rfl
  rw [if_pos (by decide)] at hoverflow
  exact absurd (hoverflow.symm.trans hload) (by simp)

end cpv
