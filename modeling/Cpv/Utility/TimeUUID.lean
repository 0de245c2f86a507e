import Cpv.Core.BitFields
import Cpv.Core.IntType
import Cpv.Utility.UUIDText

namespace cpv

/-- A time point of the system clock: nanoseconds since 1970 -/
abbrev TimePoint := IntType.int64.Value

def TimeUUIDVersion : BitVec 8 := 1

def MaxClockId : BitVec 32 := 0b11111111111111

/-- 1582-10-15 -/
def EpochSinceUUID1TimestampBase : BitVec 64 := 122192928000000000

/-- Convert a time point to time stamp of uuid 1. The literals are unsigned, so the counts are converted before they are
    multiplied and divided. -/
def toTimeUUIDTimestamp (timePoint : TimePoint) : BitVec 64 :=
  BitVec.ofInt 64 ((timePoint : Int).tdiv 1000000) * 10000 + BitVec.ofInt 64 timePoint / 100 % 10000 +
    EpochSinceUUID1TimestampBase

/-- Convert a time stamp of uuid 1 to time point. There is none where the nanoseconds overflow. -/
def fromTimeUUIDTimestamp (timeStamp : BitVec 64) : Option Int := do
  let milliseconds := IntType.int64.convert ((timeStamp - EpochSinceUUID1TimestampBase) / 10000).toNat
  let result ← IntType.int64.compute (milliseconds * 1000000)
  let nanoseconds := IntType.int64.convert (timeStamp % 10000 * 100).toNat
  IntType.int64.compute (result + nanoseconds)

/-- Make a version 1 (date-time and MAC address) uuid -/
def makeTimeUUIDOf (timeStamp : BitVec 64) (clockId : BitVec 32) (nodeId : BitVec 64) : UUIDDataType :=
  (((timeStamp &&& 0x00000000ffffffff) <<< 32) |||
      ((timeStamp &&& 0x0000ffff00000000) >>> 16) |||
      0x0000000000001000 |||
      ((timeStamp &&& 0x0fff000000000000) >>> 48),
    0x8000000000000000 |||
      ((clockId.setWidth 64 &&& 0x3fff) <<< 48) |||
      (nodeId &&& 0x0000ffffffffffff))

/-- Make a minimum version 1 uuid of the specific time point, useful for search query -/
def makeMinTimeUUID (timePoint : TimePoint) : UUIDDataType := makeTimeUUIDOf (toTimeUUIDTimestamp timePoint) 0 0

/-- Make a maximum version 1 uuid of the specific time point, useful for search query -/
def makeMaxTimeUUID (timePoint : TimePoint) : UUIDDataType :=
  makeTimeUUIDOf (toTimeUUIDTimestamp timePoint) MaxClockId 0xffffffffffffffff

/-- Extrat version from uuid -/
def getVersionFromUUID (uuid : UUIDDataType) : BitVec 8 := ((uuid.1 &&& 0x000000000000f000) >>> 12).setWidth 8

/-- The time stamp of a uuid, gathered from its fields -/
def timeStampOfUUID (uuid : UUIDDataType) : BitVec 64 :=
  ((uuid.1 &&& 0xffffffff00000000) >>> 32) |||
    ((uuid.1 &&& 0x00000000ffff0000) <<< 16) |||
    ((uuid.1 &&& 0x0000000000000fff) <<< 48)

/-- Extract time stamp from verion 1 uuid. There is no time point where the nanoseconds overflow. -/
def getTimeFromUUID (uuid : UUIDDataType) : Option (Except FormatException Int) :=
  if getVersionFromUUID uuid ≠ TimeUUIDVersion then
    some (.error ⟨[text "get time from uuid failed: version should be 1, uuid is", uuidToStr uuid]⟩)
  else (fromTimeUUIDTimestamp (timeStampOfUUID uuid)).map .ok

section Fields

/-- The fields of the first half next to each other -/
theorem or_timeFields {low mid high : Nat} (hmid : mid < 2 ^ 16) (hhigh : high < 2 ^ 12) :
    low * 2 ^ 32 ||| mid * 2 ^ 16 ||| 2 ^ 12 ||| high = low * 2 ^ 32 + mid * 2 ^ 16 + 2 ^ 12 + high := by
  have hfirst : low * 2 ^ 32 ||| mid * 2 ^ 16 = low * 2 ^ 32 + mid * 2 ^ 16 :=
    Nat.or_eq_add 32 (by omega) (by omega)
  have hversion : low * 2 ^ 32 + mid * 2 ^ 16 ||| 2 ^ 12 = low * 2 ^ 32 + mid * 2 ^ 16 + 2 ^ 12 :=
    Nat.or_eq_add 16 (by omega) (by omega)
  rw [hfirst, hversion]
  exact Nat.or_eq_add 12 (by omega) hhigh

theorem toNat_fst_makeTimeUUIDOf (timeStamp : BitVec 64) (clockId : BitVec 32) (nodeId : BitVec 64) :
    (makeTimeUUIDOf timeStamp clockId nodeId).1.toNat =
      timeStamp.toNat % 2 ^ 32 * 2 ^ 32 + timeStamp.toNat / 2 ^ 32 % 2 ^ 16 * 2 ^ 16 + 2 ^ 12 +
        timeStamp.toNat / 2 ^ 48 % 2 ^ 12 := by
  have hlow : (timeStamp.toNat &&& 0x00000000ffffffff) <<< 32 % 2 ^ 64 = timeStamp.toNat % 2 ^ 32 * 2 ^ 32 := by
    rw [show 0x00000000ffffffff = 2 ^ 32 - 1 from rfl, Nat.and_two_pow_sub_one_eq_mod, Nat.shiftLeft_eq]
    omega
  have hmid : (timeStamp.toNat &&& 0x0000ffff00000000) >>> 16 = timeStamp.toNat / 2 ^ 32 % 2 ^ 16 * 2 ^ 16 := by
    rw [show 0x0000ffff00000000 = (2 ^ 16 - 1) <<< 32 from rfl, Nat.and_mask, Nat.shiftRight_eq_div_pow]
    omega
  have hhigh : (timeStamp.toNat &&& 0x0fff000000000000) >>> 48 = timeStamp.toNat / 2 ^ 48 % 2 ^ 12 := by
    rw [show 0x0fff000000000000 = (2 ^ 12 - 1) <<< 48 from rfl, Nat.and_mask, Nat.shiftRight_eq_div_pow]
    omega
  rw [← or_timeFields (by omega) (by omega), ← hlow, ← hmid, ← hhigh]
  rfl

theorem toNat_snd_makeTimeUUIDOf (timeStamp : BitVec 64) (clockId : BitVec 32) (nodeId : BitVec 64) :
    (makeTimeUUIDOf timeStamp clockId nodeId).2.toNat =
      2 ^ 63 + clockId.toNat % 2 ^ 14 * 2 ^ 48 + nodeId.toNat % 2 ^ 48 := by
  have hclock : (clockId.setWidth 64 &&& 0x3fff : BitVec 64).toNat <<< 48 % 2 ^ 64 = clockId.toNat % 2 ^ 14 * 2 ^ 48 := by
    rw [BitVec.toNat_and, BitVec.toNat_setWidth, show (0x3fff : BitVec 64).toNat = 2 ^ 14 - 1 from rfl,
      Nat.and_two_pow_sub_one_eq_mod, Nat.shiftLeft_eq]
    omega
  have hnode : nodeId.toNat &&& 0x0000ffffffffffff = nodeId.toNat % 2 ^ 48 :=
    Nat.and_two_pow_sub_one_eq_mod nodeId.toNat 48
  have hvariant : 2 ^ 63 ||| clockId.toNat % 2 ^ 14 * 2 ^ 48 = 2 ^ 63 + clockId.toNat % 2 ^ 14 * 2 ^ 48 :=
    Nat.or_eq_add 62 (by omega) (by omega)
  rw [← hvariant, ← Nat.or_eq_add 48 (by rw [hvariant]; omega) (by omega), ← hclock, ← hnode]
  rfl

theorem toNat_timeStampOfUUID (uuid : UUIDDataType) :
    (timeStampOfUUID uuid).toNat =
      uuid.1.toNat / 2 ^ 32 + uuid.1.toNat / 2 ^ 16 % 2 ^ 16 * 2 ^ 32 + uuid.1.toNat % 2 ^ 12 * 2 ^ 48 := by
  have hlt := uuid.1.isLt
  have hlow : (uuid.1.toNat &&& 0xffffffff00000000) >>> 32 = uuid.1.toNat / 2 ^ 32 := by
    rw [show 0xffffffff00000000 = (2 ^ 32 - 1) <<< 32 from rfl, Nat.and_mask, Nat.shiftRight_eq_div_pow]
    omega
  have hmid : (uuid.1.toNat &&& 0x00000000ffff0000) <<< 16 % 2 ^ 64 = uuid.1.toNat / 2 ^ 16 % 2 ^ 16 * 2 ^ 32 := by
    rw [show 0x00000000ffff0000 = (2 ^ 16 - 1) <<< 16 from rfl, Nat.and_mask, Nat.shiftLeft_eq]
    omega
  have hhigh : (uuid.1.toNat &&& 0x0000000000000fff) <<< 48 % 2 ^ 64 = uuid.1.toNat % 2 ^ 12 * 2 ^ 48 := by
    rw [show 0x0000000000000fff = 2 ^ 12 - 1 from rfl, Nat.and_two_pow_sub_one_eq_mod, Nat.shiftLeft_eq]
    omega
  have hfirst : uuid.1.toNat / 2 ^ 32 ||| uuid.1.toNat / 2 ^ 16 % 2 ^ 16 * 2 ^ 32 =
      uuid.1.toNat / 2 ^ 16 % 2 ^ 16 * 2 ^ 32 + uuid.1.toNat / 2 ^ 32 := by
    rw [Nat.or_comm]
    exact Nat.or_eq_add 32 (by omega) (by omega)
  have hjoin : (uuid.1.toNat / 2 ^ 32 ||| uuid.1.toNat / 2 ^ 16 % 2 ^ 16 * 2 ^ 32) ||| uuid.1.toNat % 2 ^ 12 * 2 ^ 48 =
      uuid.1.toNat % 2 ^ 12 * 2 ^ 48 + (uuid.1.toNat / 2 ^ 16 % 2 ^ 16 * 2 ^ 32 + uuid.1.toNat / 2 ^ 32) := by
    rw [hfirst, Nat.or_comm]
    exact Nat.or_eq_add 48 (by omega) (by omega)
  have hsame : (timeStampOfUUID uuid).toNat =
      (uuid.1.toNat / 2 ^ 32 ||| uuid.1.toNat / 2 ^ 16 % 2 ^ 16 * 2 ^ 32) ||| uuid.1.toNat % 2 ^ 12 * 2 ^ 48 := by
    rw [← hlow, ← hmid, ← hhigh]
    rfl
  rw [hsame, hjoin]
  omega

/-- A time stamp of 60 bits is gathered as it was scattered. -/
theorem timeStampOfUUID_makeTimeUUIDOf {timeStamp : BitVec 64} (hlt : timeStamp.toNat < 2 ^ 60) (clockId : BitVec 32)
    (nodeId : BitVec 64) : timeStampOfUUID (makeTimeUUIDOf timeStamp clockId nodeId) = timeStamp := by
  refine BitVec.eq_of_toNat_eq ?_
  have hsplit : timeStamp.toNat = timeStamp.toNat % 2 ^ 32 + timeStamp.toNat / 2 ^ 32 % 2 ^ 16 * 2 ^ 32 +
      timeStamp.toNat / 2 ^ 48 % 2 ^ 12 * 2 ^ 48 := by omega
  have hlow : timeStamp.toNat % 2 ^ 32 < 2 ^ 32 := Nat.mod_lt _ (by decide)
  have hmid : timeStamp.toNat / 2 ^ 32 % 2 ^ 16 < 2 ^ 16 := Nat.mod_lt _ (by decide)
  have hhigh : timeStamp.toNat / 2 ^ 48 % 2 ^ 12 < 2 ^ 12 := Nat.mod_lt _ (by decide)
  rw [toNat_timeStampOfUUID, toNat_fst_makeTimeUUIDOf]
  generalize timeStamp.toNat % 2 ^ 32 = low at *
  generalize timeStamp.toNat / 2 ^ 32 % 2 ^ 16 = mid at *
  generalize timeStamp.toNat / 2 ^ 48 % 2 ^ 12 = high at *
  have hfirst : (low * 2 ^ 32 + mid * 2 ^ 16 + 2 ^ 12 + high) / 2 ^ 32 = low := by omega
  have hsecond : (low * 2 ^ 32 + mid * 2 ^ 16 + 2 ^ 12 + high) / 2 ^ 16 % 2 ^ 16 = mid := by
    rw [show (low * 2 ^ 32 + mid * 2 ^ 16 + 2 ^ 12 + high) / 2 ^ 16 = low * 2 ^ 16 + mid by omega]
    omega
  have hthird : (low * 2 ^ 32 + mid * 2 ^ 16 + 2 ^ 12 + high) % 2 ^ 12 = high := by omega
  rw [hfirst, hsecond, hthird, hsplit]

theorem getVersionFromUUID_makeTimeUUIDOf (timeStamp : BitVec 64) (clockId : BitVec 32) (nodeId : BitVec 64) :
    getVersionFromUUID (makeTimeUUIDOf timeStamp clockId nodeId) = TimeUUIDVersion := by
  have hversion (number : Nat) : (number &&& 0x000000000000f000) >>> 12 = number / 2 ^ 12 % 2 ^ 4 := by
    rw [show 0x000000000000f000 = (2 ^ 4 - 1) <<< 12 from rfl, Nat.and_mask, Nat.shiftRight_eq_div_pow]
    omega
  refine BitVec.eq_of_toNat_eq ?_
  have hsame : (getVersionFromUUID (makeTimeUUIDOf timeStamp clockId nodeId)).toNat =
      ((makeTimeUUIDOf timeStamp clockId nodeId).1.toNat &&& 0x000000000000f000) >>> 12 % 2 ^ 8 := rfl
  have hhigh : timeStamp.toNat / 2 ^ 48 % 2 ^ 12 < 2 ^ 12 := Nat.mod_lt _ (by decide)
  rw [hsame, hversion, toNat_fst_makeTimeUUIDOf, show TimeUUIDVersion.toNat = 1 from rfl]
  generalize timeStamp.toNat % 2 ^ 32 = low
  generalize timeStamp.toNat / 2 ^ 32 % 2 ^ 16 = mid
  generalize timeStamp.toNat / 2 ^ 48 % 2 ^ 12 = high at *
  omega

end Fields

section Times

theorem getTimeFromUUID_makeTimeUUIDOf {timeStamp : BitVec 64} (hlt : timeStamp.toNat < 2 ^ 60) (clockId : BitVec 32)
    (nodeId : BitVec 64) :
    getTimeFromUUID (makeTimeUUIDOf timeStamp clockId nodeId) = (fromTimeUUIDTimestamp timeStamp).map .ok := by
  rw [getTimeFromUUID, if_neg fun hversion => hversion (getVersionFromUUID_makeTimeUUIDOf ..),
    timeStampOfUUID_makeTimeUUIDOf hlt]

theorem fits_int64_iff {number : Int} : IntType.int64.Fits number ↔ -2 ^ 63 ≤ number ∧ number ≤ 2 ^ 63 - 1 := by
  simp [IntType.Fits, IntType.min, IntType.max, IntType.int64]

theorem int64_compute (number : Int) :
    IntType.int64.compute number = if -2 ^ 63 ≤ number ∧ number ≤ 2 ^ 63 - 1 then some number else none := by
  simp only [IntType.compute, fits_int64_iff]
  rfl

theorem int64_convert {number : Nat} (hlt : number < 2 ^ 63) : IntType.int64.convert number = number :=
  IntType.convert_of_fits (fits_int64_iff.mpr ⟨by omega, by omega⟩)

theorem fromTimeUUIDTimestamp_eq (timeStamp : BitVec 64) :
    fromTimeUUIDTimestamp timeStamp =
      (IntType.int64.compute (((timeStamp - EpochSinceUUID1TimestampBase).toNat / 10000 : Nat) * 1000000)).bind
        fun result => IntType.int64.compute (result + (timeStamp.toNat % 10000 * 100 : Nat)) := by
  have hmilliseconds : ((timeStamp - EpochSinceUUID1TimestampBase) / 10000).toNat =
      (timeStamp - EpochSinceUUID1TimestampBase).toNat / 10000 := rfl
  have hnanoseconds : (timeStamp % 10000 * 100).toNat = timeStamp.toNat % 10000 * 100 := by
    have hproduct : (timeStamp % 10000 * 100).toNat = timeStamp.toNat % 10000 * 100 % 2 ^ 64 := rfl
    omega
  have hlt := (timeStamp - EpochSinceUUID1TimestampBase).isLt
  rw [fromTimeUUIDTimestamp, hmilliseconds, hnanoseconds, int64_convert (by omega), int64_convert (by omega)]
  rfl

/-- No time stamp stands for a time before 1970. -/
theorem fromTimeUUIDTimestamp_nonneg {timeStamp : BitVec 64} {time : Int}
    (htime : fromTimeUUIDTimestamp timeStamp = some time) : 0 ≤ time := by
  rw [fromTimeUUIDTimestamp_eq, Option.bind_eq_some_iff] at htime
  obtain ⟨result, hresult, htime⟩ := htime
  rw [int64_compute, Option.ite_none_right_eq_some, Option.some.injEq] at hresult htime
  omega

theorem milliseconds_bounds (timePoint : TimePoint) :
    -9223372036855 ≤ (timePoint : Int).tdiv 1000000 ∧ (timePoint : Int).tdiv 1000000 ≤ 9223372036854 := by
  obtain ⟨hlow, hhigh⟩ := fits_int64_iff.mp timePoint.2
  rcases Int.le_total 0 timePoint with hpos | hneg
  · rw [Int.tdiv_eq_ediv_of_nonneg hpos]
    omega
  · rw [← neg_neg (timePoint : Int), Int.neg_tdiv, Int.tdiv_eq_ediv_of_nonneg (by omega)]
    omega

/-- The time stamp as a number, without a wrap around -/
theorem toNat_toTimeUUIDTimestamp (timePoint : TimePoint) :
    ((toTimeUUIDTimestamp timePoint).toNat : Int) =
      (timePoint : Int).tdiv 1000000 * 10000 + (timePoint : Int) % 2 ^ 64 / 100 % 10000 + 122192928000000000 := by
  have hmilliseconds := milliseconds_bounds timePoint
  have hsum : (toTimeUUIDTimestamp timePoint).toNat =
      ((((timePoint : Int).tdiv 1000000 % 2 ^ 64).toNat * 10000 % 2 ^ 64 +
        ((timePoint : Int) % 2 ^ 64).toNat / 100 % 10000) % 2 ^ 64 + 122192928000000000) % 2 ^ 64 := by
    have hten : (10000 : BitVec 64).toNat = 10000 := rfl
    have hhundred : (100 : BitVec 64).toNat = 100 := rfl
    have hbase : EpochSinceUUID1TimestampBase.toNat = 122192928000000000 := rfl
    rw [toTimeUUIDTimestamp, BitVec.toNat_add, BitVec.toNat_add, BitVec.toNat_mul, BitVec.toNat_umod, BitVec.toNat_udiv,
      BitVec.toNat_ofInt, BitVec.toNat_ofInt, hten, hhundred, hbase]
    norm_cast
  have hintervals : ((((timePoint : Int) % 2 ^ 64).toNat / 100 % 10000 : Nat) : Int) =
      (timePoint : Int) % 2 ^ 64 / 100 % 10000 := by omega
  have hcount : (((timePoint : Int).tdiv 1000000 % 2 ^ 64).toNat : Int) = (timePoint : Int).tdiv 1000000 % 2 ^ 64 := by
    omega
  have hlt : ((timePoint : Int) % 2 ^ 64).toNat / 100 % 10000 < 10000 := Nat.mod_lt _ (by decide)
  rw [hsum, ← hintervals]
  generalize ((timePoint : Int) % 2 ^ 64).toNat / 100 % 10000 = intervals at *
  generalize ((timePoint : Int).tdiv 1000000 % 2 ^ 64).toNat = count at *
  generalize (timePoint : Int).tdiv 1000000 = milliseconds at *
  omega

theorem toNat_toTimeUUIDTimestamp_lt (timePoint : TimePoint) : (toTimeUUIDTimestamp timePoint).toNat < 2 ^ 60 := by
  have hnumber := toNat_toTimeUUIDTimestamp timePoint
  have hmilliseconds := milliseconds_bounds timePoint
  generalize (timePoint : Int).tdiv 1000000 = milliseconds at *
  omega

/-- From 1970 on the time stamp counts the intervals of 100 nanoseconds. -/
theorem toTimeUUIDTimestamp_of_nonneg {timePoint : TimePoint} (hpos : 0 ≤ (timePoint : Int)) :
    ((toTimeUUIDTimestamp timePoint).toNat : Int) = (timePoint : Int) / 100 + 122192928000000000 := by
  obtain ⟨hlow, hhigh⟩ := fits_int64_iff.mp timePoint.2
  rw [toNat_toTimeUUIDTimestamp, Int.tdiv_eq_ediv_of_nonneg hpos]
  omega

theorem fromTimeUUIDTimestamp_of_le {timeStamp : BitVec 64} (intervals : Nat)
    (hnumber : timeStamp.toNat = intervals + 122192928000000000) (hle : intervals ≤ 92233720368547758) :
    fromTimeUUIDTimestamp timeStamp = some ((intervals : Int) * 100) := by
  have hsub : (timeStamp - EpochSinceUUID1TimestampBase).toNat = intervals := by
    have hbase : EpochSinceUUID1TimestampBase.toNat = 122192928000000000 := rfl
    rw [BitVec.toNat_sub, hbase]
    omega
  rw [fromTimeUUIDTimestamp_eq, hsub, int64_compute, if_pos (by omega), Option.bind_some, int64_compute,
    if_pos (by omega), Option.some.injEq, hnumber]
  omega

/-- From 1970 on the time is read back, up to 100 nanoseconds. -/
theorem getTimeFromUUID_of_nonneg {timePoint : TimePoint} (hpos : 0 ≤ (timePoint : Int)) (clockId : BitVec 32)
    (nodeId : BitVec 64) :
    getTimeFromUUID (makeTimeUUIDOf (toTimeUUIDTimestamp timePoint) clockId nodeId) =
      some (.ok ((timePoint : Int) / 100 * 100)) := by
  obtain ⟨hlow, hhigh⟩ := fits_int64_iff.mp timePoint.2
  have hnumber := toTimeUUIDTimestamp_of_nonneg hpos
  rw [getTimeFromUUID_makeTimeUUIDOf (toNat_toTimeUUIDTimestamp_lt timePoint),
    fromTimeUUIDTimestamp_of_le ((timePoint : Int) / 100).toNat (by omega) (by omega), Option.map_some,
    Int.toNat_of_nonneg (by omega)]

theorem getTimeFromUUID_nonneg {uuid : UUIDDataType} {time : Int} (htime : getTimeFromUUID uuid = some (.ok time)) :
    0 ≤ time := by
  unfold getTimeFromUUID at htime
  split at htime
  · cases htime
  · obtain ⟨result, hresult, heq⟩ := Option.map_eq_some_iff.mp htime
    cases heq
    exact fromTimeUUIDTimestamp_nonneg hresult

end Times

/-- The time of the smallest and of the largest uuid of a time point is the time point, rounded down to 100 ns, and all
    uuids of the time point lie between them. -/
structure TimeUUIDIsExact (timePoint : TimePoint) : Prop where
  min_time : getTimeFromUUID (makeMinTimeUUID timePoint) = some (.ok ((timePoint : Int) / 100 * 100))
  max_time : getTimeFromUUID (makeMaxTimeUUID timePoint) = some (.ok ((timePoint : Int) / 100 * 100))
  between : ∀ (clockId : BitVec 32) (nodeId : BitVec 64), clockId ≤ MaxClockId →
    let uuid := makeTimeUUIDOf (toTimeUUIDTimestamp timePoint) clockId nodeId
    uuid.1 = (makeMinTimeUUID timePoint).1 ∧ uuid.1 = (makeMaxTimeUUID timePoint).1 ∧
      (makeMinTimeUUID timePoint).2 ≤ uuid.2 ∧ uuid.2 ≤ (makeMaxTimeUUID timePoint).2

theorem makeTimeUUIDOf_between (timePoint : TimePoint) (clockId : BitVec 32) (nodeId : BitVec 64) :
    (makeMinTimeUUID timePoint).2 ≤ (makeTimeUUIDOf (toTimeUUIDTimestamp timePoint) clockId nodeId).2 ∧
      (makeTimeUUIDOf (toTimeUUIDTimestamp timePoint) clockId nodeId).2 ≤ (makeMaxTimeUUID timePoint).2 := by
  have hmax : MaxClockId.toNat % 2 ^ 14 = 2 ^ 14 - 1 := rfl
  have hnode : (0xffffffffffffffff : BitVec 64).toNat % 2 ^ 48 = 2 ^ 48 - 1 := rfl
  simp only [BitVec.le_def, makeMinTimeUUID, makeMaxTimeUUID, toNat_snd_makeTimeUUIDOf, hmax, hnode]
  constructor <;> simp <;> omega

/-- Time uuids are exact from 1970 on. Before it the quotient of an unsigned number is taken, and no time before it is
    ever read. -/
theorem timeUUIDIsExact_iff (timePoint : TimePoint) : TimeUUIDIsExact timePoint ↔ 0 ≤ (timePoint : Int) := by
  constructor
  · intro hexact
    have hpos := getTimeFromUUID_nonneg hexact.min_time
    omega
  · intro hpos
    refine ⟨getTimeFromUUID_of_nonneg hpos _ _, getTimeFromUUID_of_nonneg hpos _ _, fun clockId nodeId _ => ?_⟩
    exact ⟨rfl, rfl, makeTimeUUIDOf_between timePoint clockId nodeId⟩

/-- One nanosecond before 1970 -/
theorem not_timeUUIDIsExact_before : ¬ TimeUUIDIsExact ⟨-1, by decide⟩ := by
  intro hexact
  have hpos := getTimeFromUUID_nonneg hexact.min_time
  exact absurd hpos (by decide)

end cpv
