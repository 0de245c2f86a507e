import Mathlib.Data.Int.ModEq
import Mathlib.Data.List.GetD
import Mathlib.Tactic.Ring

/-!
The Gregorian calendar, extended to all years, with days counted from 1 January 1970.
-/

namespace Calendar

def isLeap (year : Int) : Bool := year % 4 = 0 && (year % 100 ≠ 0 || year % 400 = 0)

/-- The lengths of the months of a year, from January on -/
def monthLengths (year : Int) : List Nat :=
  [31, if isLeap year then 29 else 28, 31, 30, 31, 30, 31, 31, 30, 31, 30, 31]

/-- The days from 1 January of the year 1 to 1 January of a year -/
def daysBeforeYear (year : Int) : Int := 365 * (year - 1) + (year - 1) / 4 - (year - 1) / 100 + (year - 1) / 400

/-- The days from 1 January of the year 1 to 1 January 1970 -/
def epoch : Int := 719162

/-- A date: months and days count from one. -/
structure Date where
  year : Int
  month : Nat
  day : Nat
  deriving DecidableEq

/-- Only some dates exist. -/
structure Date.Exists (date : Date) : Prop where
  month_pos : 0 < date.month
  day_pos : 0 < date.day
  day_le : date.day ≤ (monthLengths date.year).getD (date.month - 1) 0

instance (date : Date) : Decidable date.Exists :=
  decidable_of_iff (0 < date.month ∧ 0 < date.day ∧ date.day ≤ (monthLengths date.year).getD (date.month - 1) 0)
    ⟨fun ⟨hmonth, hday, hle⟩ => ⟨hmonth, hday, hle⟩, fun ⟨hmonth, hday, hle⟩ => ⟨hmonth, hday, hle⟩⟩

theorem getD_monthLengths_le (year : Int) (index : Nat) : (monthLengths year).getD index 0 ≤ 31 := by
  have hmonths : ∀ leap : Bool, ∀ index < 12,
      [31, if leap then 29 else 28, 31, 30, 31, 30, 31, 31, 30, 31, 30, 31].getD index 0 ≤ 31 := by
    decide
  by_cases hindex : index < 12
  · exact hmonths (isLeap year) index hindex
  · rw [List.getD_eq_default _ _ (not_lt.mp hindex)]
    exact Nat.zero_le 31

namespace Date.Exists

variable {date : Date} (hexists : date.Exists)

include hexists

theorem month_le : date.month ≤ 12 := by
  by_contra hmonth
  have hle := hexists.day_le
  have hpos := hexists.day_pos
  rw [List.getD_eq_default _ _ (show 12 ≤ date.month - 1 by omega)] at hle
  omega

theorem day_le_31 : date.day ≤ 31 := hexists.day_le.trans (getD_monthLengths_le _ _)

end Date.Exists

/-- The days from 1 January 1970 to a date -/
def Date.toDays (date : Date) : Int :=
  daysBeforeYear date.year + ((monthLengths date.year).take (date.month - 1)).sum + (date.day - 1) - epoch

/-- The month and the day of month of a day, by the lengths of the months -/
def monthDay : List Nat → Nat → Nat × Nat
  | [], day => (1, day + 1)
  | length :: lengths, day =>
    if day < length then (1, day + 1) else ((monthDay lengths (day - length)).1 + 1, (monthDay lengths (day - length)).2)

/-- The year of a day that is counted from 1 January of the year 1 -/
def yearOf (day : Int) : Int :=
  let year := day * 400 / 146097 + 1
  if daysBeforeYear (year + 1) ≤ day then year + 1 else year

/-- The date of a day -/
def Date.ofDays (days : Int) : Date :=
  let year := yearOf (days + epoch)
  let place := monthDay (monthLengths year) (days + epoch - daysBeforeYear year).toNat
  { year, month := place.1, day := place.2 }

theorem daysBeforeYear_succ (year : Int) :
    daysBeforeYear (year + 1) = daysBeforeYear year + (monthLengths year).sum := by
  have hlength : ((monthLengths year).sum : Int) = if isLeap year then 366 else 365 := by
    unfold monthLengths
    split <;> rfl
  rw [hlength]
  unfold daysBeforeYear isLeap
  split
  · rename_i hleap
    simp only [Bool.and_eq_true, Bool.or_eq_true, decide_eq_true_eq] at hleap
    omega
  · rename_i hleap
    simp only [Bool.and_eq_true, Bool.or_eq_true, decide_eq_true_eq] at hleap
    omega

theorem daysBeforeYear_le {year other : Int} (hle : year ≤ other) : daysBeforeYear year ≤ daysBeforeYear other := by
  unfold daysBeforeYear
  omega

/-- A day is in the year of it. -/
theorem yearOf_spec (day : Int) : daysBeforeYear (yearOf day) ≤ day ∧ day < daysBeforeYear (yearOf day + 1) := by
  unfold yearOf
  dsimp only
  split
  · rename_i hnext
    refine ⟨hnext, ?_⟩
    unfold daysBeforeYear
    omega
  · rename_i hnext
    refine ⟨?_, not_le.mp hnext⟩
    unfold daysBeforeYear
    omega

/-- The place of a day in months of any lengths. -/
theorem monthDay_spec {lengths : List Nat} {day : Nat} (hday : day < lengths.sum) :
    0 < (monthDay lengths day).1 ∧ 0 < (monthDay lengths day).2 ∧
      (monthDay lengths day).2 ≤ lengths.getD ((monthDay lengths day).1 - 1) 0 ∧
      (lengths.take ((monthDay lengths day).1 - 1)).sum + ((monthDay lengths day).2 - 1) = day := by
  induction lengths generalizing day with
  | nil => exact absurd hday (Nat.not_lt_zero day)
  | cons length lengths ih =>
    rw [monthDay]
    by_cases hfirst : day < length
    · rw [if_pos hfirst]
      refine ⟨Nat.one_pos, Nat.succ_pos day, hfirst, ?_⟩
      simp
    · rw [if_neg hfirst]
      rw [List.sum_cons] at hday
      obtain ⟨hmonth, hpos, hle, hsum⟩ := @ih (day - length) (by omega)
      generalize monthDay lengths (day - length) = place at *
      obtain ⟨month, hmonth⟩ : ∃ month, place.1 = month + 1 :=
        Nat.exists_eq_succ_of_ne_zero (Nat.pos_iff_ne_zero.mp hmonth)
      rw [hmonth, Nat.add_sub_cancel] at hle hsum
      refine ⟨Nat.succ_pos _, hpos, ?_, ?_⟩
      · simpa [hmonth] using hle
      · simp only [hmonth, Nat.add_sub_cancel, List.take_succ_cons, List.sum_cons]
        omega

/-- What is left of a day in its year. -/
theorem dayOfYear_lt (day : Int) :
    (day - daysBeforeYear (yearOf day)).toNat < (monthLengths (yearOf day)).sum := by
  obtain ⟨hle, hlt⟩ := yearOf_spec day
  rw [daysBeforeYear_succ] at hlt
  omega

theorem exists_ofDays (days : Int) : (Date.ofDays days).Exists :=
  have hplace := monthDay_spec (dayOfYear_lt (days + epoch))
  ⟨hplace.1, hplace.2.1, hplace.2.2.1⟩

/-- The date of a day is at that day. -/
theorem toDays_ofDays (days : Int) : (Date.ofDays days).toDays = days := by
  obtain ⟨-, hpos, -, hsum⟩ := monthDay_spec (dayOfYear_lt (days + epoch))
  obtain ⟨hle, -⟩ := yearOf_spec (days + epoch)
  unfold Date.toDays Date.ofDays
  dsimp only
  omega

/-- A day in a month is less than all the months have. -/
theorem sum_take_add_lt {lengths : List Nat} {index day : Nat} (hday : day < lengths.getD index 0) :
    (lengths.take index).sum + day < lengths.sum := by
  induction lengths generalizing index with
  | nil => simp at hday
  | cons length lengths ih =>
    cases index with
    | zero =>
      rw [List.getD_cons_zero] at hday
      rw [List.take_zero, List.sum_nil, List.sum_cons]
      omega
    | succ index =>
      rw [List.getD_cons_succ] at hday
      have hrest := ih hday
      rw [List.take_succ_cons, List.sum_cons, List.sum_cons]
      omega

/-- The day of a date that exists is in the year of the date. -/
theorem Date.Exists.toDays_mem {date : Date} (hexists : date.Exists) :
    daysBeforeYear date.year ≤ date.toDays + epoch ∧ date.toDays + epoch < daysBeforeYear (date.year + 1) := by
  have hpos := hexists.day_pos
  have hle := hexists.day_le
  have hlt := @sum_take_add_lt (monthLengths date.year) (date.month - 1) (date.day - 1) (by omega)
  rw [daysBeforeYear_succ]
  unfold toDays
  omega

theorem le_yearOf_iff {year day : Int} : year ≤ yearOf day ↔ daysBeforeYear year ≤ day := by
  obtain ⟨hle, hlt⟩ := yearOf_spec day
  constructor
  · intro hyear
    exact (daysBeforeYear_le hyear).trans hle
  · intro hday
    by_contra hyear
    have hnext := daysBeforeYear_le (show yearOf day + 1 ≤ year by omega)
    omega

/-- A date exists at one day only. -/
theorem Date.Exists.year_ofDays {date : Date} (hexists : date.Exists) : (Date.ofDays date.toDays).year = date.year := by
  obtain ⟨hle, hlt⟩ := hexists.toDays_mem
  have hyear : date.year ≤ yearOf (date.toDays + epoch) := le_yearOf_iff.mpr hle
  have hnext : ¬ date.year + 1 ≤ yearOf (date.toDays + epoch) := mt le_yearOf_iff.mp (not_le.mpr hlt)
  show yearOf (date.toDays + epoch) = date.year
  omega

/-- The seconds of a day -/
def secondsPerDay : Int := 86400

/-- A date and a time of day -/
structure DateTime where
  date : Date
  hour : Nat
  minute : Nat
  second : Nat
  deriving DecidableEq

/-- The date and the time of day exist, without leap seconds. -/
structure DateTime.Exists (time : DateTime) : Prop where
  date : time.date.Exists
  hour_lt : time.hour < 24
  minute_lt : time.minute < 60
  second_lt : time.second < 60

instance (time : DateTime) : Decidable time.Exists :=
  decidable_of_iff (time.date.Exists ∧ time.hour < 24 ∧ time.minute < 60 ∧ time.second < 60)
    ⟨fun ⟨hdate, hhour, hminute, hsecond⟩ => ⟨hdate, hhour, hminute, hsecond⟩,
      fun ⟨hdate, hhour, hminute, hsecond⟩ => ⟨hdate, hhour, hminute, hsecond⟩⟩

/-- The seconds from the beginning of 1970 to a date and a time of day -/
def DateTime.toSeconds (time : DateTime) : Int :=
  time.date.toDays * secondsPerDay + (time.hour * 3600 + time.minute * 60 + time.second : Nat)

/-- The date and the time of day of a second -/
def DateTime.ofSeconds (seconds : Int) : DateTime :=
  let ofDay := (seconds % secondsPerDay).toNat
  { date := Date.ofDays (seconds / secondsPerDay)
    hour := ofDay / 3600
    minute := ofDay / 60 % 60
    second := ofDay % 60 }

namespace DateTime

theorem exists_ofSeconds (seconds : Int) : (ofSeconds seconds).Exists := by
  have hlt := Int.emod_lt_of_pos seconds (show 0 < secondsPerDay by decide)
  refine ⟨exists_ofDays _, ?_, ?_, ?_⟩
  · unfold ofSeconds secondsPerDay at *
    dsimp only
    omega
  · exact Nat.mod_lt _ (by decide)
  · exact Nat.mod_lt _ (by decide)

theorem toSeconds_ofSeconds (seconds : Int) : (ofSeconds seconds).toSeconds = seconds := by
  unfold toSeconds ofSeconds
  dsimp only
  rw [toDays_ofDays]
  unfold secondsPerDay
  omega

/-- What exists is of the day that its seconds are in. -/
theorem Exists.toSeconds_div {time : DateTime} (hexists : time.Exists) :
    time.toSeconds / secondsPerDay = time.date.toDays := by
  obtain ⟨-, hhour, hminute, hsecond⟩ := hexists
  unfold toSeconds secondsPerDay
  omega

theorem Exists.year_ofSeconds {time : DateTime} (hexists : time.Exists) :
    (ofSeconds time.toSeconds).date.year = time.date.year := by
  show (Date.ofDays (time.toSeconds / secondsPerDay)).year = time.date.year
  rw [hexists.toSeconds_div, hexists.date.year_ofDays]

end DateTime

end Calendar
