import SecScan.Json.Literal

/-!
Calendar dates and times of day as configuration data holds them, checked and written the way
the language's date and time types check and write them.

A date has a year from 1 to 9999, a month from 1 to 12 and a day within its month. A time of day
adds an hour, a minute and a second, a count of microseconds, and possibly an offset from UTC,
which must lie strictly within a day either way. A date is written
`datetime.date(2001, 12, 14)`; a timestamp drops its microseconds when there are none, and then
its seconds when there are none, and names its offset after the fields:
`datetime.datetime(2001, 12, 14, 21, 59, 43, 100000, tzinfo=datetime.timezone.utc)`.
-/

namespace SecScan.Data

/-- A calendar date. -/
structure Date where
  year : Nat
  month : Nat
  day : Nat
  deriving Repr, BEq, DecidableEq, Inhabited

/-- A date and a time of day to the microsecond, with its offset from UTC in seconds when it
has one. -/
structure Timestamp where
  date : Date
  hour : Nat
  minute : Nat
  second : Nat
  micro : Nat
  offset : Option Int
  deriving Repr, BEq, DecidableEq, Inhabited

/-- Whether a year of the Gregorian calendar has 366 days. -/
def isLeapYear (year : Nat) : Bool := year % 4 == 0 && (year % 100 != 0 || year % 400 == 0)

/-- The number of days in a month of a year. -/
def daysInMonth (year month : Nat) : Nat :=
  if month == 2 then (if isLeapYear year then 29 else 28)
  else if month == 4 || month == 6 || month == 9 || month == 11 then 30
  else 31

/-- A date from its fields, or the message for the first field out of range. -/
def Date.make (year month day : Nat) : Except String Date :=
  if year < 1 || 9999 < year then .error ("year " ++ toString year ++ " is out of range")
  else if month < 1 || 12 < month then .error "month must be in 1..12"
  else if day < 1 || daysInMonth year month < day then .error "day is out of range for month"
  else .ok ⟨year, month, day⟩

/-- A timestamp from its fields, or the message for the first field out of range. -/
def Timestamp.make (year month day hour minute second micro : Nat) (offset : Option Int) :
    Except String Timestamp := do
  let date ← Date.make year month day
  if 23 < hour then throw "hour must be in 0..23"
  if 59 < minute then throw "minute must be in 0..59"
  if 59 < second then throw "second must be in 0..59"
  if 999999 < micro then throw "microsecond must be in 0..999999"
  pure ⟨date, hour, minute, second, micro, offset⟩

/-- A span of seconds written as a time difference: whole days, rounded down, and the seconds
left over, each named only when it is not zero. -/
def deltaText (seconds : Int) : String :=
  let days := seconds / 86400
  let rest := seconds % 86400
  let parts := (if days != 0 then ["days=" ++ toString days] else []) ++
    (if rest != 0 then ["seconds=" ++ toString rest] else [])
  "datetime.timedelta(" ++ (if parts.isEmpty then "0" else ", ".intercalate parts) ++ ")"

/-- Checks an offset from UTC in seconds: it must lie strictly within a day either way. -/
def checkOffset (seconds : Int) : Except String Int :=
  if seconds ≤ -86400 || 86400 ≤ seconds then
    .error ("offset must be a timedelta strictly between -timedelta(hours=24) and " ++
      "timedelta(hours=24), not " ++ deltaText seconds ++ ".")
  else .ok seconds

/-- An offset from UTC written as a time zone: UTC itself for no offset. -/
def zoneText (seconds : Int) : String :=
  if seconds == 0 then "datetime.timezone.utc"
  else "datetime.timezone(" ++ deltaText seconds ++ ")"

/-- A date as it is written. -/
def Date.text (d : Date) : String :=
  "datetime.date(" ++ toString d.year ++ ", " ++ toString d.month ++ ", " ++ toString d.day ++ ")"

/-- A timestamp as it is written. -/
def Timestamp.text (t : Timestamp) : String :=
  let fields := [t.date.year, t.date.month, t.date.day, t.hour, t.minute] ++
    (if t.micro != 0 then [t.second, t.micro] else if t.second != 0 then [t.second] else [])
  let zone := match t.offset with
    | some seconds => ", tzinfo=" ++ zoneText seconds
    | none => ""
  "datetime.datetime(" ++ ", ".intercalate (fields.map toString) ++ zone ++ ")"

/-- The day number of a date, counting from the first of January of year 1. -/
def Date.ordinal (d : Date) : Nat :=
  let y := d.year - 1
  let before := (List.range (d.month - 1)).foldl (fun n m => n + daysInMonth d.year (m + 1)) 0
  y * 365 + y / 4 - y / 100 + y / 400 + before + d.day

/-- The instant of a timestamp in microseconds, with its offset taken off when it has one. -/
def Timestamp.instant (t : Timestamp) : Int :=
  let seconds : Int := ((t.date.ordinal * 24 + t.hour) * 60 + t.minute) * 60 + t.second
  (seconds - t.offset.getD 0) * 1000000 + t.micro

/-- Whether two timestamps are equal: fields alike when neither has an offset, the same instant
when both have one, and never when only one has. -/
def Timestamp.same (a b : Timestamp) : Bool :=
  match a.offset, b.offset with
  | none, none => a == b
  | some _, some _ => a.instant == b.instant
  | _, _ => false

end SecScan.Data
