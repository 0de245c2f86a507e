import Cpv.Core.Split
import Cpv.Utility.DateUtils
import Cpv.Utility.StringUtils

namespace cpv

open Calendar

/-- A character of the value of an attribute: ASCII, but no control character and no semicolon. -/
def isAvChar (c : UInt8) : Bool := 0x20 ≤ c && c < 0x7f && c != byte ';'

/-- An attribute of a cookie, as a client understands it. There is no path where the client uses its default one. -/
inductive CookieAttribute
  | expires (time : Int)
  | maxAge (seconds : Int)
  | domain (domain : SharedString)
  | path (path : Option SharedString)
  | secure
  | httpOnly
  deriving DecidableEq

/-- What a client understands of a Set-Cookie field -/
structure ClientCookie where
  name : SharedString
  value : SharedString
  attributes : List CookieAttribute
  deriving DecidableEq

namespace ClientCookie

section date

def isDigit (c : UInt8) : Bool := byte '0' ≤ c && c ≤ byte '9'

/-- `delimiter` of the grammar of dates -/
def isDateDelimiter (c : UInt8) : Bool :=
  c == 0x09 || (0x20 ≤ c && c ≤ 0x2F) || (0x3B ≤ c && c ≤ 0x40) || (0x5B ≤ c && c ≤ 0x60) || (0x7B ≤ c && c ≤ 0x7E)

/-- A number of a given count of digits at the beginning of a token, and what follows it. More digits must not follow. -/
def dateNumber (least most : Nat) (token : SharedString) : Option (Nat × SharedString) :=
  let digits := token.takeWhile isDigit
  if least ≤ digits.length ∧ digits.length ≤ most then
    (decimalLoop digits 0).map fun value => (value, token.dropWhile isDigit)
  else none

/-- `time` -/
def timeToken (token : SharedString) : Option (Nat × Nat × Nat) := do
  let (hour, rest) ← dateNumber 1 2 token
  let rest ← (if rest.head? = some (byte ':') then some rest.tail else none : Option _)
  let (minute, rest) ← dateNumber 1 2 rest
  let rest ← (if rest.head? = some (byte ':') then some rest.tail else none : Option _)
  let (second, _) ← dateNumber 1 2 rest
  some (hour, minute, second)

/-- `day-of-month` -/
def dayToken (token : SharedString) : Option Nat := (dateNumber 1 2 token).map Prod.fst

/-- `month`: the first three letters decide, in whatever letter case. -/
def monthToken (token : SharedString) : Option Nat :=
  ((monthNames.map fun name => name.map toLower).idxOf? ((token.take 3).map toLower)).map Nat.succ

/-- `year` -/
def yearToken (token : SharedString) : Option Nat := (dateNumber 2 4 token).map Prod.fst

/-- What has been found in the tokens of a date -/
structure DateFields where
  time : Option (Nat × Nat × Nat) := none
  day : Option Nat := none
  month : Option Nat := none
  year : Option Nat := none
  deriving DecidableEq

/-- The first token of each kind counts, and a token is of the first kind that has not been found. -/
def DateFields.read (fields : DateFields) (token : SharedString) : DateFields :=
  match fields.time, timeToken token with
  | none, some time => { fields with time := some time }
  | _, _ =>
    match fields.day, dayToken token with
    | none, some day => { fields with day := some day }
    | _, _ =>
      match fields.month, monthToken token with
      | none, some month => { fields with month := some month }
      | _, _ =>
        match fields.year, yearToken token with
        | none, some year => { fields with year := some year }
        | _, _ => fields

/-- A year of two digits is one of the years from 1970 to 2069. -/
def fullYear (year : Nat) : Nat :=
  if 70 ≤ year ∧ year ≤ 99 then year + 1900 else if year ≤ 69 then year + 2000 else year

/-- The time that the fields of a date stand for, if there is one -/
def DateFields.toTime (fields : DateFields) : Option Int := do
  let (hour, minute, second) ← fields.time
  let day ← fields.day
  let month ← fields.month
  let year ← fields.year
  let time : DateTime := { date := { year := fullYear year, month, day }, hour, minute, second }
  if 1601 ≤ fullYear year ∧ time.Exists then some time.toSeconds else none

/-- The tokens between the delimiters of a date -/
def dateTokens (str : SharedString) : List SharedString := (str.splitOnP isDateDelimiter).filter (· ≠ [])

/-- How a client parses the date of a cookie -/
def parseDate (str : SharedString) : Option Int := ((dateTokens str).foldl DateFields.read {}).toTime

end date

/-- White space that is removed around names and values -/
def isWsp (c : UInt8) : Bool := c == byte ' ' || c == byte '\t'

def strip (str : SharedString) : SharedString := (str.dropWhile isWsp).rdropWhile isWsp

/-- The parts before and behind the first separator -/
def splitFirst (separator : UInt8) (str : SharedString) : Option (SharedString × SharedString) :=
  if separator ∈ str then some (str.takeWhile (· != separator), (str.dropWhile (· != separator)).tail) else none

/-- The field of a line, if it is one. Of the white space around its value only what is in it counts. -/
def headerField (line : SharedString) : Option (SharedString × SharedString) :=
  (splitFirst (byte ':') (line.rdropWhile (· == byte '\r'))).map fun field => (field.1, strip field.2)

/-- The values of the fields of a header block that have a name, in whatever letter case -/
def fieldsNamed (name block : SharedString) : List SharedString :=
  ((block.splitOn (byte '\n')).filterMap headerField).filterMap fun field =>
    if field.1.map toLower = name.map toLower then some field.2 else none

/-- The seconds of a Max-Age attribute -/
def parseMaxAge (value : SharedString) : Option Int :=
  if value.head? = some (byte '-') then (decimalValue value.tail).map fun seconds => -(seconds : Int)
  else (decimalValue value).map Int.ofNat

/-- How a client understands an attribute of a name in lower case, if it does -/
def namedAttribute (name value : SharedString) : Option CookieAttribute :=
  if name = text "expires" then (parseDate value).map .expires
  else if name = text "max-age" then (parseMaxAge value).map .maxAge
  else if name = text "domain" then
    if value = [] then none
    else some (.domain ((if value.head? = some (byte '.') then value.tail else value).map toLower))
  else if name = text "path" then some (.path (if value.head? = some (byte '/') then some value else none))
  else if name = text "secure" then some .secure
  else if name = text "httponly" then some .httpOnly
  else none

/-- How a client understands the text between two semicolons -/
def parseAttribute (av : SharedString) : Option CookieAttribute :=
  let (name, value) := (splitFirst (byte '=') av).getD (av, [])
  namedAttribute ((strip name).map toLower) (strip value)

/-- How a client understands the value of a Set-Cookie field, unless it ignores the field -/
def parse (str : SharedString) : Option ClientCookie := do
  let parts := str.splitOn (byte ';')
  let (name, value) ← splitFirst (byte '=') parts.headI
  if strip name = [] then none
  else some { name := strip name, value := strip value, attributes := parts.tail.filterMap parseAttribute }

section strip

variable {str : SharedString}

/-- A text is left as it is where both of its ends are. -/
theorem strip_eq_self (hhead : ∀ c ∈ str.head?, ¬ isWsp c) (hlast : ∀ c ∈ str.getLast?, ¬ isWsp c) : strip str = str := by
  have hdrop : str.dropWhile isWsp = str := by
    cases str with
    | nil => rfl
    | cons c str => exact List.dropWhile_cons_of_neg (hhead c rfl)
  rw [strip, hdrop, List.rdropWhile_eq_self_iff]
  exact fun hne => hlast _ (List.getLast_mem_getLast? hne)

theorem strip_of_forall (hstr : ∀ c ∈ str, ¬ isWsp c) : strip str = str :=
  strip_eq_self (fun c hc => hstr c (List.mem_of_mem_head? hc)) (fun c hc => hstr c (List.mem_of_getLast? hc))

theorem strip_concat {c : UInt8} (hc : isWsp c) : strip (str ++ [c]) = strip str := by
  rw [strip, strip, List.dropWhile_append]
  split
  · rename_i hempty
    rw [List.isEmpty_iff.mp hempty, List.dropWhile_cons_of_pos hc]
    rfl
  · exact List.rdropWhile_concat_pos isWsp _ c hc

end strip

theorem splitFirst_append {separator : UInt8} {first second : SharedString} (hfirst : separator ∉ first) :
    splitFirst separator (first ++ separator :: second) = some (first, second) := by
  have hne : ∀ c ∈ first, (c != separator) = true := fun c hc => bne_iff_ne.mpr fun heq => hfirst (heq ▸ hc)
  rw [splitFirst, if_pos (by simp), List.takeWhile_append_of_pos hne, List.dropWhile_append_of_pos hne]
  simp

theorem splitFirst_eq_none {separator : UInt8} {str : SharedString} (hstr : separator ∉ str) :
    splitFirst separator str = none := if_neg hstr

theorem splitFirst_concat {separator c : UInt8} (hc : c ≠ separator) (str : SharedString) :
    splitFirst separator (str ++ [c]) = (splitFirst separator str).map fun parts => (parts.1, parts.2 ++ [c]) := by
  by_cases hmem : separator ∈ str
  · obtain ⟨first, second, rfl, hfirst⟩ := List.eq_append_cons_of_mem hmem
    rw [List.append_assoc, List.cons_append, splitFirst_append hfirst, splitFirst_append hfirst]
    rfl
  · have hconcat : separator ∉ str ++ [c] := by simp [hmem, Ne.symm hc]
    rw [splitFirst_eq_none hmem, splitFirst_eq_none hconcat]
    rfl

theorem parseAttribute_concat {c : UInt8} (hc : isWsp c) (av : SharedString) :
    parseAttribute (av ++ [c]) = parseAttribute av := by
  have hne : c ≠ byte '=' := by
    rintro rfl
    exact absurd hc (by decide)
  rw [parseAttribute, parseAttribute, splitFirst_concat hne]
  cases splitFirst (byte '=') av with
  | none => simp only [Option.map_none, Option.getD_none, strip_concat hc]
  | some parts => simp only [Option.map_some, Option.getD_some, strip_concat hc]

theorem parse_concat {c : UInt8} (hc : isWsp c) (str : SharedString) : parse (str ++ [c]) = parse str := by
  have hequals : c ≠ byte '=' := by
    rintro rfl
    exact absurd hc (by decide)
  have hsemicolon : c ≠ byte ';' := by
    rintro rfl
    exact absurd hc (by decide)
  obtain ⟨init, last, hparts⟩ := (List.eq_nil_or_concat (str.splitOn (byte ';'))).resolve_left (List.splitOn_ne_nil _ _)
  rw [List.concat_eq_append] at hparts
  rw [parse, parse, List.splitOn_concat_ne hparts hsemicolon, hparts]
  cases init with
  | nil =>
    simp only [List.nil_append, List.headI_cons, splitFirst_concat hequals]
    cases splitFirst (byte '=') last with
    | none => rfl
    | some parts => simp only [Option.map_some, Option.bind_eq_bind, Option.bind_some, strip_concat hc, List.tail_cons]
  | cons first init =>
    simp only [List.cons_append, List.headI_cons, List.tail_cons, List.filterMap_append, List.filterMap_cons,
      List.filterMap_nil, parseAttribute_concat hc]

/-- White space at the end of a field does not matter. -/
theorem parse_rdropWhile (str : SharedString) : parse (str.rdropWhile isWsp) = parse str := by
  induction str using List.reverseRecOn with
  | nil => rfl
  | append_singleton str c ih =>
    rw [List.rdropWhile_concat]
    split
    · rename_i hc
      rw [ih, parse_concat hc]
    · rfl

end ClientCookie

end cpv
