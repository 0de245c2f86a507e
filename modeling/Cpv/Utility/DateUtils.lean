import Cpv.Core.Calendar
import Cpv.Utility.SharedStringBuilder

namespace cpv

open Calendar

def weekdayNames : List SharedString :=
  [text "Sun", text "Mon", text "Tue", text "Wed", text "Thu", text "Fri", text "Sat"]

def monthNames : List SharedString :=
  [text "Jan", text "Feb", text "Mar", text "Apr", text "May", text "Jun", text "Jul", text "Aug", text "Sep", text "Oct",
    text "Nov", text "Dec"]

/-- A number below one hundred with two decimal digits -/
def twoDigits (value : Nat) : SharedString := [DecimalDigits.getD (value / 10) 0, DecimalDigits.getD (value % 10) 0]

/-- What `strftime` writes for "%a, %d %b %Y %H:%M:%S GMT" and a time of `gmtime_r` -/
def strftimeForHttpHeader (time : Int) : SharedString :=
  let tm := DateTime.ofSeconds time
  -- 1 January 1970 was a Thursday
  weekdayNames.getD ((time / secondsPerDay + 4) % 7).toNat [] ++ text ", " ++ twoDigits tm.date.day ++ text " " ++
    monthNames.getD (tm.date.month - 1) [] ++ text " " ++ fromInteger tm.date.year ++ text " " ++ twoDigits tm.hour ++
    text ":" ++ twoDigits tm.minute ++ text ":" ++ twoDigits tm.second ++ text " GMT"

/-- The size of time string used for http header, not include tailing zero -/
def HttpHeaderTimeStringSize : Nat := 29

/-- Format time for http header. A text that does not fit leaves anything in the buffer: it is what is given. -/
def formatTimeForHttpHeader (time : Int) (buf : SharedString) : Bool × SharedString :=
  let str := strftimeForHttpHeader time
  if str.length < buf.length then (true, str ++ 0 :: buf.drop (str.length + 1)) else (false, buf)

/-- The text of the overload that has a thread local buffer, whatever is in the buffer -/
def viewTimeForHttpHeader (time : Int) (buf : SharedString) : SharedString :=
  (formatTimeForHttpHeader time buf).2.take HttpHeaderTimeStringSize

example : strftimeForHttpHeader 1568771516 = text "Wed, 18 Sep 2019 01:51:56 GMT" := by decide +kernel

end cpv
