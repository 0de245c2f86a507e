import Cpv.Core.Buffer
import Cpv.Core.IntType
import Cpv.Core.Loop
import Cpv.Utility.SharedStringBuilder

namespace IntType

variable {type : IntType} {value : Int}

/-- Quotient and remainder by ten stand between zero and the number. -/
theorem tdiv_tmod_ten (value : Int) :
    (0 ≤ value → 0 ≤ value.tdiv 10 ∧ value.tdiv 10 ≤ value ∧ 0 ≤ value.tmod 10 ∧ value.tmod 10 ≤ value) ∧
      (value ≤ 0 → value ≤ value.tdiv 10 ∧ value.tdiv 10 ≤ 0 ∧ value ≤ value.tmod 10 ∧ value.tmod 10 ≤ 0) ∧
      -9 ≤ value.tmod 10 ∧ value.tmod 10 ≤ 9 := by
  rcases Int.le_total 0 value with hvalue | hvalue
  · rw [Int.tdiv_eq_ediv_of_nonneg hvalue, Int.tmod_eq_emod_of_nonneg hvalue]
    omega
  · obtain ⟨opposite, rfl⟩ : ∃ opposite, value = -opposite := ⟨-value, by omega⟩
    rw [Int.neg_tdiv, Int.neg_tmod, Int.tdiv_eq_ediv_of_nonneg (by omega), Int.tmod_eq_emod_of_nonneg (by omega)]
    omega

theorem min_nonpos (type : IntType) : type.min ≤ 0 := by
  refine forall_type (P := fun type => type.min ≤ 0) (fun signed => ?_) type
  cases signed <;> simp [min]

theorem max_nonneg (type : IntType) : 127 ≤ type.max := by
  refine forall_type (P := fun type => 127 ≤ type.max) (fun signed => ?_) type
  cases signed <;> simp [max]

theorem min_of_signed (hsigned : type.signed) : type.min ≤ -128 := by
  refine forall_type (P := fun type => type.signed → type.min ≤ -128) (fun signed => ?_) type hsigned
  cases signed <;> simp [min]

theorem min_of_unsigned (hsigned : ¬ type.signed) : type.min = 0 := if_neg hsigned

theorem Fits.tdiv_ten (hfits : type.Fits value) : type.Fits (value.tdiv 10) := by
  obtain ⟨hpos, hneg, -⟩ := tdiv_tmod_ten value
  obtain ⟨hlow, hhigh⟩ := hfits
  have hmin := type.min_nonpos
  have hmax := type.max_nonneg
  constructor <;> omega

theorem Fits.tmod_ten (hfits : type.Fits value) : type.Fits (value.tmod 10) := by
  obtain ⟨hpos, hneg, -⟩ := tdiv_tmod_ten value
  obtain ⟨hlow, hhigh⟩ := hfits
  have hmin := type.min_nonpos
  have hmax := type.max_nonneg
  constructor <;> omega

end IntType

namespace cpv

/-- The canonical text of a number in decimal. -/
def decimalText (value : Int) : SharedString := (if value < 0 then [byte '-'] else []) ++ fromInt value.natAbs

/-- A round of the loops that write the digits of an integer, the last one first. `put` is how a digit is written, and
    `remType` the type of the variable for the remainder. -/
def digitRound {Out : Type} (type remType : IntType) (put : Out → UInt8 → Option Out) (state : Int × Out) :
    Option (ForInStep (Int × Out)) := do
  let rem ← (type.promoted.compute (state.1.tmod 10)).map remType.convert
  let value ← type.assign (state.1.tdiv 10)
  let index ← (if 0 ≤ rem then some rem else remType.promoted.compute (-rem) : Option Int)
  let out ← put state.2 (DecimalDigits.getD index.toNat 0)
  return if value ≠ 0 then .yield (value, out) else .done (value, out)

/-- A type that has all remainders of another one by ten, and their magnitudes -/
def HoldsRemainders (type remType : IntType) : Prop :=
  ∀ value, type.Fits value → remType.Fits (value.tmod 10) ∧ (value.tmod 10 < 0 → remType.Fits (-value.tmod 10))

theorem holdsRemainders_of_signed (type : IntType) {remType : IntType} (hsigned : remType.signed) :
    HoldsRemainders type remType := by
  intro value _
  obtain ⟨-, -, hlow, hhigh⟩ := IntType.tdiv_tmod_ten value
  have hmin := IntType.min_of_signed hsigned
  have hmax := remType.max_nonneg
  refine ⟨⟨by omega, by omega⟩, fun _ => ⟨by omega, by omega⟩⟩

/-- A remainder of an unsigned type is not negative. -/
theorem holdsRemainders_of_unsigned {type : IntType} (hsigned : ¬ type.signed) (remType : IntType) :
    HoldsRemainders type remType := by
  intro value hfits
  obtain ⟨hpos, -, hlow, hhigh⟩ := IntType.tdiv_tmod_ten value
  have hmin := remType.min_nonpos
  have hmax := remType.max_nonneg
  have hvalue := hfits.1
  rw [IntType.min_of_unsigned hsigned] at hvalue
  refine ⟨⟨by omega, by omega⟩, fun hneg => by omega⟩

section Digits

variable {Out : Type} {type remType : IntType} {put : Out → UInt8 → Option Out}

/-- A round writes the digit of the remainder, without an overflow. -/
theorem digitRound_spec (hrem : HoldsRemainders type remType) {value : Int} (hvalue : type.Fits value) {out after : Out}
    (hput : put out (DecimalDigits.getD (value.natAbs % 10) 0) = some after) :
    digitRound type remType put (value, out) =
      some (if value.tdiv 10 ≠ 0 then .yield (value.tdiv 10, after) else .done (value.tdiv 10, after)) := by
  obtain ⟨hfits, hneg⟩ := hrem value hvalue
  have hmagnitude : (value.tmod 10).natAbs = value.natAbs % 10 := Int.natAbs_tmod ..
  have hindex : (if 0 ≤ value.tmod 10 then some (value.tmod 10) else remType.promoted.compute (-value.tmod 10)) =
      some ((value.natAbs % 10 : Nat) : Int) := by
    split
    · exact congrArg some (by omega)
    · rw [IntType.promoted_compute_of_fits (hneg (by omega))]
      exact congrArg some (by omega)
  rw [digitRound, IntType.promoted_compute_of_fits hvalue.tmod_ten, Option.map_some, IntType.convert_of_fits hfits,
    IntType.assign_of_fits hvalue.tdiv_ten]
  simp only [Option.bind_eq_bind, Option.bind_some, hindex, Int.toNat_natCast, hput]
  rfl

/-- The loop writes the digits of the number, the last one first, where there is room for them. -/
theorem run_digitRound (put : Out → UInt8 → Option Out) (hrem : HoldsRemainders type remType)
    (written : Out → SharedString) (room : Nat)
    (hput : ∀ out c, (written out).length < room → ∃ after, put out c = some after ∧ written after = written out ++ [c])
    {value : Int} (hvalue : type.Fits value) (out : Out)
    (hroom : (written out).length + (fromInt value.natAbs).length ≤ room) :
    ∃ final, Loop.run (digitRound type remType put) (value.natAbs + 1) (value, out) = some final ∧
      written final.2 = written out ++ (fromInt value.natAbs).reverse := by
  refine Loop.run_spec
    (fun state : Int × Out => type.Fits state.1 ∧ (written state.2).length + (fromInt state.1.natAbs).length ≤ room ∧
      written state.2 ++ (fromInt state.1.natAbs).reverse = written out ++ (fromInt value.natAbs).reverse)
    (fun state => state.1.natAbs) ?_ ⟨hvalue, hroom, rfl⟩ (Nat.lt_succ_self _)
  rintro ⟨value, out⟩ ⟨hvalue, hroom, hsame⟩
  dsimp only at hvalue hroom hsame
  have hquotient : (value.tdiv 10).natAbs = value.natAbs / 10 := Int.natAbs_tdiv value 10
  by_cases hlast : value.natAbs < 10
  · rw [fromInt_lt hlast] at hroom hsame
    rw [List.length_singleton] at hroom
    obtain ⟨after, hafter, hwritten⟩ := hput out (DecimalDigits.getD (value.natAbs % 10) 0) hroom
    have hround := digitRound_spec hrem hvalue hafter
    rw [if_neg (by omega)] at hround
    rw [Nat.mod_eq_of_lt hlast] at hwritten
    exact .inl ⟨_, hround, hwritten.trans hsame⟩
  · rw [fromInt_eq (by omega), List.length_append, List.length_singleton] at hroom
    rw [fromInt_eq (by omega), List.reverse_append, List.reverse_singleton] at hsame
    obtain ⟨after, hafter, hwritten⟩ := hput out (DecimalDigits.getD (value.natAbs % 10) 0) (by omega)
    have hround := digitRound_spec hrem hvalue hafter
    rw [if_pos (by omega)] at hround
    refine .inr ⟨_, hround, ⟨hvalue.tdiv_ten, ?_, ?_⟩, by simp only; omega⟩
    · rw [hwritten, hquotient, List.length_append, List.length_singleton]
      omega
    · rw [hwritten, hquotient, List.append_assoc]
      exact hsame

end Digits

/-- Convert integer to decimal and write to string. There is no result where an operation overflows. -/
def dumpIntToDec (type : IntType) (value : Int) (str : SharedString) : Option SharedString := do
  let str := if type.signed ∧ value < 0 then str ++ [byte '-'] else str
  let prevSize := str.length
  let final ← Loop.run (digitRound type type fun str c => some (str ++ [c])) (value.natAbs + 1) (value, str)
  return final.2.take prevSize ++ (final.2.drop prevSize).reverse

theorem holdsRemainders_self (type : IntType) : HoldsRemainders type type := by
  by_cases hsigned : type.signed
  · exact holdsRemainders_of_signed type hsigned
  · exact holdsRemainders_of_unsigned hsigned type

/-- `dumpIntToDec` writes the canonical text, the one of the minimum value included. -/
theorem dumpIntToDec_eq {type : IntType} {value : Int} (hvalue : type.Fits value) (str : SharedString) :
    dumpIntToDec type value str = some (str ++ decimalText value) := by
  have hsign : (if type.signed ∧ value < 0 then str ++ [byte '-'] else str) =
      str ++ if value < 0 then [byte '-'] else [] := by
    by_cases hsigned : type.signed
    · by_cases hneg : value < 0 <;> simp [hsigned, hneg]
    · have hmin := hvalue.1
      rw [IntType.min_of_unsigned hsigned] at hmin
      simp [hsigned, Int.not_lt.mpr hmin]
  rw [dumpIntToDec, hsign]
  generalize hbefore : (str ++ if value < 0 then [byte '-'] else []) = before
  obtain ⟨⟨_, after⟩, hrun, hwritten⟩ := run_digitRound (fun (str : SharedString) c => some (str ++ [c]))
    (holdsRemainders_self type) id (before ++ fromInt value.natAbs).length
    (fun out c _ => ⟨out ++ [c], rfl, rfl⟩) hvalue before (by simp)
  simp only [id_eq] at hwritten
  simp only [hrun, Option.bind_eq_bind, Option.bind_some, hwritten, List.take_left, List.drop_left, List.reverse_reverse]
  rw [decimalText, ← List.append_assoc, hbefore]
  rfl

/-- The loop of `loadIntFromDec` for an integer type. There is no result where an operation overflows, and the result is
    none where a character is no digit. -/
def loadIntFromDecOfLoop (type : IntType) : SharedString → Int → Option (Option Int)
  | [], value => some (some value)
  | c :: dec, value =>
    let diff := c - byte '0'
    if diff ≤ 9 then do
      let value ← type.assign (value * 10)
      let value ← type.assign (value + diff.toNat)
      loadIntFromDecOfLoop type dec value
    else some none

/-- Convert decimal string to integer. -/
def loadIntFromDecOf (type : IntType) (dec : SharedString) : Option (Option Int) :=
  let minus := dec.head? = some (byte '-')
  let dec := if minus then dec.tail else dec
  (loadIntFromDecOfLoop type dec 0).bind fun loaded => loaded.elim (some none) fun value =>
    if ¬ type.signed then if minus then some none else some (some value)
    else if minus then (type.assign (-value)).map some
    else some (some value)

section Load

variable {type : IntType}

theorem loadIntFromDecOfLoop_append {dec : SharedString} {start value : Int}
    (hload : loadIntFromDecOfLoop type dec start = some (some value)) (more : SharedString) :
    loadIntFromDecOfLoop type (dec ++ more) start = loadIntFromDecOfLoop type more value := by
  induction dec generalizing start with
  | nil =>
    rw [loadIntFromDecOfLoop, Option.some.injEq, Option.some.injEq] at hload
    rw [List.nil_append, hload]
  | cons c dec ih =>
    rw [List.cons_append, loadIntFromDecOfLoop]
    rw [loadIntFromDecOfLoop] at hload
    split at hload
    · rename_i hdigit
      obtain ⟨scaled, hscaled, hrest⟩ := Option.bind_eq_some_iff.mp hload
      obtain ⟨added, hadded, hrest⟩ := Option.bind_eq_some_iff.mp hrest
      rw [if_pos hdigit, hscaled, Option.bind_eq_bind, Option.bind_some, hadded, Option.bind_some, ih hrest]
    · simp at hload

theorem decimalDigit_spec : ∀ digit : Fin 10,
    DecimalDigits.getD digit 0 - byte '0' ≤ 9 ∧ (DecimalDigits.getD digit 0 - byte '0').toNat = digit ∧
      DecimalDigits.getD digit 0 ≠ byte '-' := by
  decide +kernel

/-- One more digit, where the number with it is a value of the type. -/
theorem loadIntFromDecOfLoop_digit {digit : Nat} (hdigit : digit < 10) (value : Nat)
    (hle : ((value * 10 + digit : Nat) : Int) ≤ type.max) :
    loadIntFromDecOfLoop type [DecimalDigits.getD digit 0] value =
      some (some ((value * 10 + digit : Nat) : Int)) := by
  obtain ⟨hrange, hvalue, -⟩ := decimalDigit_spec ⟨digit, hdigit⟩
  have hmin := type.min_nonpos
  have hscaled : type.Fits ((value : Int) * 10) := ⟨by omega, by omega⟩
  have hadded : type.Fits ((value : Int) * 10 + digit) := ⟨by omega, by omega⟩
  rw [loadIntFromDecOfLoop, if_pos hrange, hvalue, IntType.assign_of_fits hscaled, Option.bind_eq_bind, Option.bind_some,
    IntType.assign_of_fits hadded, Option.bind_some, loadIntFromDecOfLoop]
  simp

/-- The digits of a number that is a value of the type are read without an overflow. -/
theorem loadIntFromDecOfLoop_fromInt {value : Nat} (hle : (value : Int) ≤ type.max) :
    loadIntFromDecOfLoop type (fromInt value) 0 = some (some (value : Int)) := by
  induction value using Nat.strong_induction_on with
  | _ value ih =>
    by_cases hlt : value < 10
    · rw [fromInt_lt hlt]
      have hdigit := loadIntFromDecOfLoop_digit hlt 0 (by simpa using hle)
      simpa using hdigit
    · have hquotient := ih (value / 10) (by omega) (by omega)
      rw [fromInt_eq (by omega), loadIntFromDecOfLoop_append hquotient,
        loadIntFromDecOfLoop_digit (Nat.mod_lt _ (by decide)) _ (by omega), show value / 10 * 10 + value % 10 = value by omega]

theorem head?_fromInt (value : Nat) : (fromInt value).head? ≠ some (byte '-') := by
  induction value using Nat.strong_induction_on with
  | _ value ih =>
    by_cases hlt : value < 10
    · rw [fromInt_lt hlt, List.head?_cons, ne_eq, Option.some.injEq]
      exact (decimalDigit_spec ⟨value, hlt⟩).2.2
    · have hquotient := ih (value / 10) (by omega)
      rw [fromInt_eq (by omega), List.head?_append]
      cases hhead : (fromInt (value / 10)).head? with
      | none =>
        simp only [Option.none_or, List.head?_cons, ne_eq, Option.some.injEq]
        exact (decimalDigit_spec ⟨value % 10, Nat.mod_lt _ (by decide)⟩).2.2
      | some c => rwa [hhead] at hquotient

/-- The text of every value is read back, but for the minimum of a signed type. -/
theorem loadIntFromDecOf_decimalText {value : Int} (hvalue : type.Fits value) (hmin : type.signed → value ≠ type.min) :
    loadIntFromDecOf type (decimalText value) = some (some value) := by
  obtain ⟨hlow, hhigh⟩ := hvalue
  have hsymmetric : type.signed → type.min = -type.max - 1 := by
    intro hsigned
    simp [IntType.min, IntType.max, hsigned]
  unfold loadIntFromDecOf decimalText
  by_cases hneg : value < 0
  · have hsigned : type.signed := by
      by_contra hunsigned
      rw [IntType.min_of_unsigned hunsigned] at hlow
      omega
    have hle : ((value.natAbs : Nat) : Int) ≤ type.max := by
      have hne := hmin hsigned
      rw [hsymmetric hsigned] at hlow hne
      omega
    have hassign : type.assign value = some value := IntType.assign_of_fits ⟨hlow, hhigh⟩
    rw [if_pos hneg]
    simp only [List.singleton_append, List.head?_cons, if_true, List.tail_cons, loadIntFromDecOfLoop_fromInt hle,
      Option.bind_some, Option.elim_some, hsigned, not_true, if_false, show -((value.natAbs : Nat) : Int) = value by omega,
      hassign, Option.map_some]
  · have hle : ((value.natAbs : Nat) : Int) ≤ type.max := by omega
    rw [if_neg hneg, List.nil_append]
    simp only [head?_fromInt, if_false, loadIntFromDecOfLoop_fromInt hle, Option.bind_some, Option.elim_some,
      show ((value.natAbs : Nat) : Int) = value by omega]
    split <;> rfl

end Load

end cpv
