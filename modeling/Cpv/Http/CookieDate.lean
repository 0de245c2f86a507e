import Cpv.Http.ClientCookie

namespace cpv

open Calendar

theorem digit_spec {digit : Nat} (hdigit : digit < 10) :
    DecimalDigits.getD digit 0 - byte '0' ≤ 9 ∧ (DecimalDigits.getD digit 0 - byte '0').toNat = digit ∧
      ClientCookie.isDigit (DecimalDigits.getD digit 0) := by
  have htable : ∀ digit : Fin 10, DecimalDigits.getD digit 0 - byte '0' ≤ 9 ∧
      (DecimalDigits.getD digit 0 - byte '0').toNat = digit ∧ ClientCookie.isDigit (DecimalDigits.getD digit 0) := by
    decide +kernel
  exact htable ⟨digit, hdigit⟩

theorem decimalLoop_append (first second : SharedString) (value : Nat) :
    decimalLoop (first ++ second) value = (decimalLoop first value).bind fun value => decimalLoop second value := by
  induction first generalizing value with
  | nil => rfl
  | cons c first ih =>
    rw [List.cons_append, decimalLoop, decimalLoop]
    split
    · exact ih _
    · rfl

theorem decimalLoop_lt {dec : SharedString} {value result : Nat} (hdec : decimalLoop dec value = some result) :
    result < (value + 1) * 10 ^ dec.length := by
  induction dec generalizing value with
  | nil =>
    obtain rfl := Option.some.inj hdec
    simp
  | cons c dec ih =>
    rw [decimalLoop] at hdec
    split at hdec
    · rename_i hdigit
      have hle : (c - byte '0').toNat ≤ 9 := UInt8.le_iff_toNat_le.mp hdigit
      have hrest := ih hdec
      rw [List.length_cons, Nat.pow_succ, Nat.mul_comm (10 ^ _), ← Nat.mul_assoc]
      exact hrest.trans_le (Nat.mul_le_mul_right _ (by omega))
    · cases hdec

theorem twoDigits_ne_nil (value : Nat) : twoDigits value ≠ [] := List.cons_ne_nil _ _

theorem decimalLoop_twoDigits {digits : Nat} (hdigits : digits < 100) (value : Nat) :
    decimalLoop (twoDigits digits) value = some (value * 100 + digits) := by
  obtain ⟨hfirst, hfirstValue, -⟩ := @digit_spec (digits / 10) (by omega)
  obtain ⟨hsecond, hsecondValue, -⟩ := @digit_spec (digits % 10) (by omega)
  simp only [twoDigits, decimalLoop]
  rw [if_pos hfirst, if_pos hsecond, hfirstValue, hsecondValue, Option.some.injEq]
  omega

theorem isDigit_twoDigits {digits : Nat} (hdigits : digits < 100) :
    ∀ c ∈ twoDigits digits, ClientCookie.isDigit c := by
  have hfirst := (@digit_spec (digits / 10) (by omega)).2.2
  have hsecond := (@digit_spec (digits % 10) (by omega)).2.2
  intro c hc
  rcases List.mem_cons.mp hc with rfl | hc
  · exact hfirst
  · rw [List.mem_singleton.mp hc]
    exact hsecond

/-- A year of four digits is written with two digits twice. -/
theorem fromInteger_year {year : Int} (hlow : 1000 ≤ year) (hhigh : year ≤ 9999) :
    fromInteger year = twoDigits (year.toNat / 100) ++ twoDigits (year.toNat % 100) := by
  obtain ⟨value, rfl⟩ := Int.eq_ofNat_of_zero_le (show 0 ≤ year by omega)
  rw [fromInteger_eq, if_neg (by omega), List.nil_append, Int.natAbs_natCast, Int.toNat_natCast, fromInt_eq (by omega),
    fromInt_eq (by omega), fromInt_eq (by omega), fromInt_lt (by omega)]
  have hplaces : value / 10 / 10 / 10 = value / 100 / 10 ∧ value / 10 / 10 % 10 = value / 100 % 10 ∧
      value / 10 % 10 = value % 100 / 10 ∧ value % 10 = value % 100 % 10 := by omega
  rw [hplaces.1, hplaces.2.1, hplaces.2.2.1, hplaces.2.2.2]
  rfl

namespace ClientCookie

section number

variable {digits rest : SharedString}

theorem takeWhile_isDigit (hdigits : ∀ c ∈ digits, isDigit c) (hrest : ∀ c ∈ rest.head?, ¬ isDigit c) :
    (digits ++ rest).takeWhile isDigit = digits ∧ (digits ++ rest).dropWhile isDigit = rest := by
  rw [List.takeWhile_append_of_pos hdigits, List.dropWhile_append_of_pos hdigits]
  cases rest with
  | nil => simp
  | cons c rest => simp [hrest c rfl]

theorem dateNumber_digits {least most value : Nat} (hdigits : ∀ c ∈ digits, isDigit c)
    (hrest : ∀ c ∈ rest.head?, ¬ isDigit c) (hvalue : decimalLoop digits 0 = some value)
    (hleast : least ≤ digits.length) (hmost : digits.length ≤ most) :
    dateNumber least most (digits ++ rest) = some (value, rest) := by
  obtain ⟨htake, hdrop⟩ := takeWhile_isDigit hdigits hrest
  rw [dateNumber, htake, hdrop, if_pos ⟨hleast, hmost⟩, hvalue]
  rfl

theorem dateNumber_long {least most : Nat} (hdigits : ∀ c ∈ digits, isDigit c)
    (hrest : ∀ c ∈ rest.head?, ¬ isDigit c) (hmost : most < digits.length) :
    dateNumber least most (digits ++ rest) = none := by
  obtain ⟨htake, -⟩ := takeWhile_isDigit hdigits hrest
  rw [dateNumber, htake, if_neg (by omega)]

/-- Two digits are a number where no other digit follows. -/
theorem dateNumber_twoDigits {value : Nat} (hvalue : value < 100) (hrest : ∀ c ∈ rest.head?, ¬ isDigit c) :
    dateNumber 1 2 (twoDigits value ++ rest) = some (value, rest) := by
  have hloop := decimalLoop_twoDigits hvalue 0
  rw [Nat.zero_mul, Nat.zero_add] at hloop
  exact dateNumber_digits (isDigit_twoDigits hvalue) hrest hloop (Nat.le_succ 1) (Nat.le_refl 2)

end number

theorem timeToken_of_none {token : SharedString} (hnumber : dateNumber 1 2 token = none) : timeToken token = none := by
  rw [timeToken, hnumber]
  rfl

theorem timeToken_time {hour minute second : Nat} (hhour : hour < 100) (hminute : minute < 100) (hsecond : second < 100) :
    timeToken (twoDigits hour ++ byte ':' :: (twoDigits minute ++ byte ':' :: twoDigits second)) =
      some (hour, minute, second) := by
  have hcolon : ∀ rest : SharedString, ∀ c ∈ (byte ':' :: rest).head?, ¬ isDigit c := by
    intro rest c hc
    cases hc
    decide
  have hlast := @dateNumber_twoDigits [] second hsecond (by simp)
  rw [List.append_nil] at hlast
  rw [timeToken, dateNumber_twoDigits hhour (hcolon _)]
  simp only [Option.bind_eq_bind, Option.bind_some, List.head?_cons, if_true, List.tail_cons,
    dateNumber_twoDigits hminute (hcolon _), hlast]

/-- Two digits are no time, but a day. -/
theorem dayToken_twoDigits {value : Nat} (hvalue : value < 100) :
    timeToken (twoDigits value) = none ∧ dayToken (twoDigits value) = some value := by
  have hnumber := @dateNumber_twoDigits [] value hvalue (by simp)
  rw [List.append_nil] at hnumber
  rw [timeToken, dayToken, hnumber]
  exact ⟨rfl, rfl⟩

/-- Four digits are no time, but a year. -/
theorem yearToken_year {year : Nat} (hyear : year < 10000) :
    timeToken (twoDigits (year / 100) ++ twoDigits (year % 100)) = none ∧
      yearToken (twoDigits (year / 100) ++ twoDigits (year % 100)) = some year := by
  have hfirst : year / 100 < 100 := by omega
  have hsecond : year % 100 < 100 := Nat.mod_lt _ (by decide)
  have hdigits : ∀ c ∈ twoDigits (year / 100) ++ twoDigits (year % 100), isDigit c := fun c hc =>
    (List.mem_append.mp hc).elim (isDigit_twoDigits hfirst c) (isDigit_twoDigits hsecond c)
  have hvalue : decimalLoop (twoDigits (year / 100) ++ twoDigits (year % 100)) 0 = some year := by
    rw [decimalLoop_append, decimalLoop_twoDigits hfirst, Option.bind_some, decimalLoop_twoDigits hsecond,
      Option.some.injEq]
    omega
  have hlong := @dateNumber_long _ [] 1 2 hdigits (by simp) (Nat.lt_add_of_pos_right Nat.two_pos)
  have hnumber := @dateNumber_digits _ [] 2 4 year hdigits (by simp) hvalue (Nat.le_add_left 2 2) (Nat.le_refl 4)
  rw [List.append_nil] at hlong hnumber
  exact ⟨timeToken_of_none hlong, by rw [yearToken, hnumber]; rfl⟩

section tokens

variable {token rest : SharedString}

theorem dateTokens_token (hne : token ≠ []) (htoken : ∀ c ∈ token, isDateDelimiter c = false) {delimiter : UInt8}
    (hdelimiter : isDateDelimiter delimiter) : dateTokens (token ++ delimiter :: rest) = token :: dateTokens rest := by
  rw [dateTokens, List.splitOnP_append_cons_of_forall_mem htoken delimiter hdelimiter,
    List.filter_cons_of_pos (by simpa using hne)]
  rfl

theorem dateTokens_delimiter {delimiter : UInt8} (hdelimiter : isDateDelimiter delimiter) :
    dateTokens (delimiter :: rest) = dateTokens rest := by
  rw [dateTokens, ← List.nil_append (delimiter :: rest),
    List.splitOnP_append_cons_of_forall_mem (fun c hc => absurd hc List.not_mem_nil) delimiter hdelimiter]
  exact List.filter_cons_of_neg (by simp)

theorem not_delimiter_of_isDigit {c : UInt8} (hdigit : isDigit c) : isDateDelimiter c = false :=
  forall_byte (P := fun c => isDigit c → isDateDelimiter c = false) (by decide +kernel) c hdigit

theorem not_delimiter_twoDigits {value : Nat} (hvalue : value < 100) :
    ∀ c ∈ twoDigits value, isDateDelimiter c = false :=
  fun c hc => not_delimiter_of_isDigit (isDigit_twoDigits hvalue c hc)

end tokens

/-- The weekday is no field, and a name is no delimiter. -/
theorem weekdayNames_spec : ∀ name ∈ weekdayNames, ({} : DateFields).read name = {} ∧ name.length = 3 ∧
    ∀ c ∈ name, isDateDelimiter c = false ∧ isAvChar c ∧ ¬ isWsp c := by
  decide +kernel

theorem monthNames_spec {month : Nat} (hpos : 0 < month) (hle : month ≤ 12) :
    timeToken (monthNames.getD (month - 1) []) = none ∧ monthToken (monthNames.getD (month - 1) []) = some month ∧
      (monthNames.getD (month - 1) []).length = 3 ∧
      ∀ c ∈ monthNames.getD (month - 1) [], isDateDelimiter c = false ∧ isAvChar c := by
  have htable : ∀ index : Fin 12, timeToken (monthNames.getD index []) = none ∧
      monthToken (monthNames.getD index []) = some (index.val + 1) ∧ (monthNames.getD index []).length = 3 ∧
      ∀ c ∈ monthNames.getD index [], isDateDelimiter c = false ∧ isAvChar c := by
    decide +kernel
  have hmonth := htable ⟨month - 1, by omega⟩
  have hsucc : month - 1 + 1 = month := Nat.sub_add_cancel hpos
  rwa [hsucc] at hmonth

section read

variable {day month year hour minute second : Nat}

/-- The fields of a date are found one after another. -/
theorem foldl_read (hday : day < 100) (hmonth : 0 < month ∧ month ≤ 12) (hyear : year < 10000) (hhour : hour < 100)
    (hminute : minute < 100) (hsecond : second < 100) {weekday : SharedString} (hweekday : weekday ∈ weekdayNames) :
    [weekday, twoDigits day, monthNames.getD (month - 1) [], twoDigits (year / 100) ++ twoDigits (year % 100),
        twoDigits hour ++ byte ':' :: (twoDigits minute ++ byte ':' :: twoDigits second), text "GMT"].foldl
        DateFields.read {} =
      { time := some (hour, minute, second), day := some day, month := some month, year := some year } := by
  obtain ⟨hdayTime, hdayToken⟩ := dayToken_twoDigits hday
  obtain ⟨hmonthTime, hmonthToken, -, -⟩ := monthNames_spec hmonth.1 hmonth.2
  obtain ⟨hyearTime, hyearToken⟩ := yearToken_year hyear
  have hreadDay : ({} : DateFields).read (twoDigits day) = { day := some day } := by
    rw [DateFields.read, hdayTime, hdayToken]
  have hreadMonth : ({ day := some day } : DateFields).read (monthNames.getD (month - 1) []) =
      { day := some day, month := some month } := by
    rw [DateFields.read, hmonthTime, hmonthToken]
  have hreadYear : ({ day := some day, month := some month } : DateFields).read
      (twoDigits (year / 100) ++ twoDigits (year % 100)) =
      { day := some day, month := some month, year := some year } := by
    rw [DateFields.read, hyearTime, hyearToken]
  have hreadTime : ({ day := some day, month := some month, year := some year } : DateFields).read
      (twoDigits hour ++ byte ':' :: (twoDigits minute ++ byte ':' :: twoDigits second)) =
      { time := some (hour, minute, second), day := some day, month := some month, year := some year } := by
    rw [DateFields.read, timeToken_time hhour hminute hsecond]
  rw [List.foldl_cons, (weekdayNames_spec weekday hweekday).1, List.foldl_cons, hreadDay, List.foldl_cons, hreadMonth,
    List.foldl_cons, hreadYear, List.foldl_cons, hreadTime]
  rfl

end read

/-- Dates of these years are written with 29 characters, and are accepted by clients. -/
def InYears (time : Int) : Prop :=
  1601 ≤ (DateTime.ofSeconds time).date.year ∧ (DateTime.ofSeconds time).date.year ≤ 9999

instance (time : Int) : Decidable (InYears time) := inferInstanceAs (Decidable (_ ∧ _))

/-- The text of a date, of which every number has two digits and the year two times two -/
def dateText (weekday month : SharedString) (day century year hour minute second : Nat) : SharedString :=
  weekday ++ text ", " ++ twoDigits day ++ text " " ++ month ++ text " " ++ (twoDigits century ++ twoDigits year) ++
    text " " ++ twoDigits hour ++ text ":" ++ twoDigits minute ++ text ":" ++ twoDigits second ++ text " GMT"

section dateText

variable {weekday month : SharedString} {day century year hour minute second : Nat} (hday : day < 100)
  (hcentury : century < 100) (hyear : year < 100) (hhour : hour < 100) (hminute : minute < 100) (hsecond : second < 100)

include hday hcentury hyear hhour hminute hsecond

/-- The text of a date between its delimiters -/
theorem dateTokens_dateText (hweekday : weekday ≠ [] ∧ ∀ c ∈ weekday, isDateDelimiter c = false)
    (hmonth : month ≠ [] ∧ ∀ c ∈ month, isDateDelimiter c = false) :
    dateTokens (dateText weekday month day century year hour minute second) =
      [weekday, twoDigits day, month, twoDigits century ++ twoDigits year,
        twoDigits hour ++ byte ':' :: (twoDigits minute ++ byte ':' :: twoDigits second), text "GMT"] := by
  have htext : dateText weekday month day century year hour minute second =
      weekday ++ byte ',' :: byte ' ' :: (twoDigits day ++ byte ' ' :: (month ++ byte ' ' ::
        ((twoDigits century ++ twoDigits year) ++ byte ' ' ::
          ((twoDigits hour ++ byte ':' :: (twoDigits minute ++ byte ':' :: twoDigits second)) ++
            byte ' ' :: text "GMT")))) := by
    rw [dateText, show text ", " = [byte ',', byte ' '] from rfl, show text " " = [byte ' '] from rfl,
      show text ":" = [byte ':'] from rfl, show text " GMT" = byte ' ' :: text "GMT" from rfl]
    simp only [List.append_assoc, List.cons_append, List.nil_append]
  have hyears : ∀ c ∈ twoDigits century ++ twoDigits year, isDateDelimiter c = false := fun c hc =>
    (List.mem_append.mp hc).elim (not_delimiter_twoDigits hcentury c) (not_delimiter_twoDigits hyear c)
  have htime : ∀ c ∈ twoDigits hour ++ byte ':' :: (twoDigits minute ++ byte ':' :: twoDigits second),
      isDateDelimiter c = false := by
    intro c hc
    rcases List.mem_append.mp hc with hc | hc
    · exact not_delimiter_twoDigits hhour c hc
    rcases List.mem_cons.mp hc with rfl | hc
    · decide
    rcases List.mem_append.mp hc with hc | hc
    · exact not_delimiter_twoDigits hminute c hc
    rcases List.mem_cons.mp hc with rfl | hc
    · decide
    · exact not_delimiter_twoDigits hsecond c hc
  have hspace : isDateDelimiter (byte ' ') := by decide
  have hzone : dateTokens (text "GMT") = [text "GMT"] := by decide +kernel
  rw [htext, dateTokens_token hweekday.1 hweekday.2 (by decide), dateTokens_delimiter hspace,
    dateTokens_token (twoDigits_ne_nil day) (not_delimiter_twoDigits hday) hspace,
    dateTokens_token hmonth.1 hmonth.2 hspace,
    dateTokens_token (List.append_ne_nil_of_left_ne_nil (twoDigits_ne_nil century) _) hyears hspace,
    dateTokens_token (List.append_ne_nil_of_left_ne_nil (twoDigits_ne_nil hour) _) htime hspace, hzone]

theorem isAvChar_dateText (hweekday : ∀ c ∈ weekday, isAvChar c) (hmonth : ∀ c ∈ month, isAvChar c) :
    ∀ c ∈ dateText weekday month day century year hour minute second, isAvChar c := by
  have htable : (∀ c ∈ text ", ", isAvChar c) ∧ (∀ c ∈ text " ", isAvChar c) ∧ (∀ c ∈ text ":", isAvChar c) ∧
      ∀ c ∈ text " GMT", isAvChar c := by
    decide +kernel
  have hdigits {value : Nat} (hvalue : value < 100) : ∀ c ∈ twoDigits value, isAvChar c := fun c hc =>
    forall_byte (P := fun c => isDigit c → isAvChar c) (by decide +kernel) c (isDigit_twoDigits hvalue c hc)
  simp only [dateText, List.forall_mem_append]
  exact ⟨⟨⟨⟨⟨⟨⟨⟨⟨⟨⟨⟨⟨hweekday, htable.1⟩, hdigits hday⟩, htable.2.1⟩, hmonth⟩, htable.2.1⟩, hdigits hcentury,
    hdigits hyear⟩, htable.2.1⟩, hdigits hhour⟩, htable.2.2.1⟩, hdigits hminute⟩, htable.2.2.1⟩, hdigits hsecond⟩,
    htable.2.2.2⟩

end dateText

/-- What is written for a time of these years -/
theorem strftime_eq_dateText {time : Int} (hyears : InYears time) : ∃ weekday ∈ weekdayNames, ∃ month day year hour minute second,
    (0 < month ∧ month ≤ 12) ∧ day < 100 ∧ (1601 ≤ year ∧ year ≤ 9999) ∧ hour < 100 ∧ minute < 100 ∧ second < 100 ∧
      strftimeForHttpHeader time =
        dateText weekday (monthNames.getD (month - 1) []) day (year / 100) (year % 100) hour minute second ∧
      DateTime.ofSeconds time = { date := { year, month, day }, hour, minute, second } := by
  obtain ⟨hlow, hhigh⟩ := hyears
  have hexists := DateTime.exists_ofSeconds time
  have hweekday : weekdayNames.getD ((time / secondsPerDay + 4) % 7).toNat [] ∈ weekdayNames := by
    have hindex : ((time / secondsPerDay + 4) % 7).toNat < weekdayNames.length := by
      show _ < 7
      omega
    rw [List.getD_eq_getElem _ _ hindex]
    exact List.getElem_mem hindex
  refine ⟨_, hweekday, ?_⟩
  rw [strftimeForHttpHeader]
  generalize DateTime.ofSeconds time = tm at *
  obtain ⟨⟨year, month, day⟩, hour, minute, second⟩ := tm
  obtain ⟨hdate, hhour, hminute, hsecond⟩ := hexists
  have hmonth := hdate.month_le
  have hmonthPos := hdate.month_pos
  have hday := hdate.day_le_31
  dsimp only at *
  have hcast : (year.toNat : Int) = year := by omega
  refine ⟨month, day, year.toNat, hour, minute, second, ⟨hmonthPos, hmonth⟩, by omega, by omega, by omega, by omega,
    by omega, ?_, by rw [hcast]⟩
  rw [fromInteger_year (by omega) hhigh]
  rfl

/-- What is written for a time of these years is read as the time. -/
theorem parseDate_strftime {time : Int} (hyears : InYears time) : parseDate (strftimeForHttpHeader time) = some time := by
  obtain ⟨weekday, hweekday, month, day, year, hour, minute, second, hmonth, hday, hyear, hhour, hminute, hsecond, htext,
    htm⟩ := strftime_eq_dateText hyears
  obtain ⟨-, hweekdayLength, hweekdayChars⟩ := weekdayNames_spec weekday hweekday
  obtain ⟨-, -, hmonthLength, hmonthChars⟩ := monthNames_spec hmonth.1 hmonth.2
  have hexists := DateTime.exists_ofSeconds time
  have hseconds := DateTime.toSeconds_ofSeconds time
  have hfull : fullYear year = year := by
    unfold fullYear
    split
    · omega
    split <;> omega
  rw [parseDate, htext, dateTokens_dateText hday (by omega) (Nat.mod_lt _ (by decide)) hhour hminute hsecond
    ⟨List.ne_nil_of_length_pos (by omega), fun c hc => (hweekdayChars c hc).1⟩
    ⟨List.ne_nil_of_length_pos (by omega), fun c hc => (hmonthChars c hc).1⟩,
    foldl_read hday hmonth (by omega) hhour hminute hsecond hweekday]
  rw [htm] at hexists hseconds
  simp only [DateFields.toTime, Option.bind_eq_bind, Option.bind_some, hfull]
  rw [if_pos ⟨hyear.1, hexists⟩, hseconds]

/-- The buffer has room for it, and nothing else of the buffer is shown. -/
theorem viewTime_eq {time : Int} (hyears : InYears time) {buf : SharedString}
    (hbuf : buf.length = HttpHeaderTimeStringSize + 1) :
    viewTimeForHttpHeader time buf = strftimeForHttpHeader time ∧ (∀ c ∈ strftimeForHttpHeader time, isAvChar c) ∧
      strip (strftimeForHttpHeader time) = strftimeForHttpHeader time := by
  obtain ⟨weekday, hweekday, month, day, year, hour, minute, second, hmonth, hday, hyear, hhour, hminute, hsecond, htext,
    -⟩ := strftime_eq_dateText hyears
  obtain ⟨-, hweekdayLength, hweekdayChars⟩ := weekdayNames_spec weekday hweekday
  obtain ⟨-, -, hmonthLength, hmonthChars⟩ := monthNames_spec hmonth.1 hmonth.2
  have hlength : (strftimeForHttpHeader time).length = HttpHeaderTimeStringSize := by
    rw [htext]
    simp only [dateText, List.length_append, hweekdayLength, hmonthLength]
    rfl
  refine ⟨?_, ?_, ?_⟩
  · rw [viewTimeForHttpHeader, formatTimeForHttpHeader, hlength, hbuf, if_pos (Nat.lt_succ_self _)]
    exact List.take_left' hlength
  · rw [htext]
    exact isAvChar_dateText hday (by omega) (Nat.mod_lt _ (by decide)) hhour hminute hsecond
      (fun c hc => (hweekdayChars c hc).2.1) (fun c hc => (hmonthChars c hc).2)
  · rw [htext]
    obtain ⟨first, rest, rfl⟩ := List.exists_cons_of_ne_nil (List.ne_nil_of_length_pos (show 0 < weekday.length by omega))
    refine strip_eq_self (fun c hc => ?_) (fun c hc => ?_)
    · simp only [dateText, List.cons_append, List.head?_cons, Option.mem_some_iff] at hc
      exact hc ▸ (hweekdayChars first List.mem_cons_self).2.2
    · rw [dateText, List.getLast?_append_of_ne_nil _ (by decide)] at hc
      obtain rfl := Option.some.inj hc
      decide

theorem yearToken_lt {token : SharedString} {year : Nat} (hyear : yearToken token = some year) : year < 10000 := by
  obtain ⟨⟨value, rest⟩, hnumber, rfl⟩ := Option.map_eq_some_iff.mp hyear
  unfold dateNumber at hnumber
  dsimp only at hnumber
  split at hnumber
  · rename_i hlength
    obtain ⟨number, hloop, heq⟩ := Option.map_eq_some_iff.mp hnumber
    obtain rfl : number = value := congrArg Prod.fst heq
    have hlt := decimalLoop_lt hloop
    have hpow : 10 ^ (token.takeWhile isDigit).length ≤ 10 ^ 4 := Nat.pow_le_pow_right (by decide) hlength.2
    show number < 10000
    omega
  · cases hnumber

/-- A year is found in a token, or has been found before. -/
theorem DateFields.year_read (fields : DateFields) (token : SharedString) :
    (fields.read token).year = fields.year ∨ (fields.read token).year = yearToken token := by
  unfold DateFields.read
  split
  · exact .inl rfl
  split
  · exact .inl rfl
  split
  · exact .inl rfl
  split
  · rename_i hyear
    exact .inr hyear.symm
  · exact .inl rfl

theorem year_foldl_read {tokens : List SharedString} {fields : DateFields} {year : Nat}
    (hfields : ∀ year, fields.year = some year → year < 10000)
    (hyear : (tokens.foldl DateFields.read fields).year = some year) : year < 10000 := by
  induction tokens generalizing fields with
  | nil => exact hfields year hyear
  | cons token tokens ih =>
    refine ih (fun year hread => ?_) hyear
    rcases fields.year_read token with hkept | hfound
    · exact hfields year (hkept ▸ hread)
    · exact yearToken_lt (hfound ▸ hread)

/-- Clients accept dates of these years only. -/
theorem inYears_of_parseDate {str : SharedString} {time : Int} (htime : parseDate str = some time) : InYears time := by
  unfold parseDate DateFields.toTime at htime
  simp only [Option.bind_eq_bind, Option.bind_eq_some_iff] at htime
  obtain ⟨⟨hour, minute, second⟩, -, day, -, month, -, year, hyear, htime⟩ := htime
  dsimp only at htime
  split at htime
  · rename_i hexists
    have hlt : year < 10000 := year_foldl_read (fun _ hnone => by cases hnone) hyear
    have hfull : fullYear year ≤ 9999 := by
      unfold fullYear
      split
      · omega
      split <;> omega
    rw [← Option.some.inj htime, InYears, hexists.2.year_ofSeconds]
    dsimp only
    omega
  · cases htime

end ClientCookie

end cpv
