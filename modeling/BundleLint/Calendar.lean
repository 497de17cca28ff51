import BundleLint.Text.Radix

/-!
# Calendar dates and times

Dates of the Gregorian calendar and times of day with an optional offset from universal time, with
the rules that make their parts valid, their written forms and the instant of an offset time.
-/

namespace BundleLint

/-- A calendar date. -/
structure Date where
  /-- Year, from 1 to 9999. -/
  year : Nat
  /-- Month, from 1 to 12. -/
  month : Nat
  /-- Day of the month. -/
  day : Nat
  deriving DecidableEq, Repr

/-- A date with a time of day. -/
structure Moment where
  /-- The date. -/
  date : Date
  /-- Hour, from 0 to 23. -/
  hour : Nat
  /-- Minute, from 0 to 59. -/
  minute : Nat
  /-- Second, from 0 to 59. -/
  second : Nat
  /-- Microsecond, below a million. -/
  microsecond : Nat
  /-- Minutes ahead of universal time, if known. -/
  offset : Option Int
  deriving DecidableEq, Repr

/-- Why parts do not make a date or a time. -/
inductive CalendarFault where
  /-- The year is zero. -/
  | year (number : Nat)
  /-- There is no such month. -/
  | month
  /-- The month has no such day. -/
  | day
  /-- There is no such hour. -/
  | hour
  /-- There is no such minute. -/
  | minute
  /-- There is no such second. -/
  | second
  /-- The offset is a day or more. -/
  | offset (minutes : Int)
  deriving DecidableEq, Repr

/-- Leap years of the Gregorian calendar. -/
def isLeapYear (year : Nat) : Bool :=
  year % 4 == 0 && (year % 100 != 0 || year % 400 == 0)

/-- Number of days of a month. -/
def monthLength (year month : Nat) : Nat :=
  if month == 2 then (if isLeapYear year then 29 else 28)
  else if month == 4 || month == 6 || month == 9 || month == 11 then 30
  else 31

/-- Minutes of a day. -/
def dayMinutes : Int := 24 * 60

/-- A span of minutes as whole days, which may be negative, and seconds of a day. -/
def spanText (minutes : Int) : String :=
  let days := minutes.fdiv dayMinutes
  let seconds := minutes.fmod dayMinutes * 60
  let parts :=
    (if days == 0 then [] else ["days=" ++ toString days]) ++
      (if seconds == 0 then [] else ["seconds=" ++ toString seconds])
  "datetime.timedelta(" ++ (if parts.isEmpty then "0" else ", ".intercalate parts) ++ ")"

/-- Wording of a fault. -/
def CalendarFault.message : CalendarFault → String
  | .year number => "year " ++ toString number ++ " is out of range"
  | .month => "month must be in 1..12"
  | .day => "day is out of range for month"
  | .hour => "hour must be in 0..23"
  | .minute => "minute must be in 0..59"
  | .second => "second must be in 0..59"
  | .offset minutes =>
    "offset must be a timedelta strictly between " ++
      "-timedelta(hours=24) and timedelta(hours=24), not " ++ spanText minutes ++ "."

namespace Date

/-- A date from its parts. -/
def make (year month day : Nat) : Except CalendarFault Date :=
  if year == 0 then .error (.year year)
  else if month == 0 || 12 < month then .error .month
  else if day == 0 || monthLength year month < day then .error .day
  else .ok ⟨year, month, day⟩

/-- Days from the first of March of the year zero. -/
def dayNumber (date : Date) : Int :=
  let shift := (date.month + 9) % 12
  let year : Int := date.year - (if date.month ≤ 2 then 1 else 0)
  365 * year + year.fdiv 4 - year.fdiv 100 + year.fdiv 400 + ((153 * shift + 2) / 5 : Nat) +
    date.day - 1

/-- Digits of a date: year, month and day between hyphens. -/
def text (date : Date) : String :=
  String.ofList
    (Text.decimal 4 date.year ++ '-' :: Text.decimal 2 date.month ++
      '-' :: Text.decimal 2 date.day)

/-- A date as a call that builds it. -/
def callText (date : Date) : String :=
  "datetime.date(" ++
    ", ".intercalate [toString date.year, toString date.month, toString date.day] ++ ")"

end Date

namespace Moment

/-- Checks an offset: it is less than a day either way. -/
def checkOffset (minutes : Int) : Except CalendarFault Int :=
  if dayMinutes ≤ minutes || minutes ≤ -dayMinutes then .error (.offset minutes) else .ok minutes

/-- A moment from its parts, of which the offset is valid. -/
def make (year month day hour minute second microsecond : Nat) (offset : Option Int) :
    Except CalendarFault Moment := do
  let date ← Date.make year month day
  if 23 < hour then throw .hour
  if 59 < minute then throw .minute
  if 59 < second then throw .second
  return { date, hour, minute, second, microsecond, offset }

/-- Microseconds of universal time since a fixed day, for a moment with an offset. -/
def instant? (moment : Moment) : Option Int :=
  moment.offset.map fun offset =>
    let minutes := moment.date.dayNumber * dayMinutes + 60 * moment.hour + moment.minute - offset
    (minutes * 60 + moment.second) * 1000000 + moment.microsecond

/-- Whether two moments are the same one, as keys of a mapping compare them. -/
def same (left right : Moment) : Bool :=
  match left.instant?, right.instant? with
  | some left, some right => left == right
  | none, none => left == right
  | _, _ => false

private def offsetText (offset : Int) : List Char :=
  (if offset < 0 then '-' else '+') ::
    (Text.decimal 2 (offset.natAbs / 60) ++ ':' :: Text.decimal 2 (offset.natAbs % 60))

/-- Digits of a moment with a separator between date and time. -/
def textWith (separator : Char) (moment : Moment) : String :=
  let fraction :=
    if moment.microsecond == 0 then [] else '.' :: Text.decimal 6 moment.microsecond
  moment.date.text ++
    String.ofList
      (separator ::
        (Text.decimal 2 moment.hour ++ ':' :: Text.decimal 2 moment.minute ++
          ':' :: Text.decimal 2 moment.second ++ fraction ++
            (moment.offset.map offsetText).getD []))

/-- Digits of a moment with a space before the time. -/
def text (moment : Moment) : String :=
  moment.textWith ' '

/-- A moment as a call that builds it; seconds and microseconds that end in zeros are left out. -/
def callText (moment : Moment) : String :=
  let date := moment.date
  let start := [date.year, date.month, date.day, moment.hour, moment.minute]
  let tail :=
    if moment.microsecond != 0 then [moment.second, moment.microsecond]
    else if moment.second != 0 then [moment.second]
    else []
  let zone :=
    match moment.offset with
    | none => []
    | some offset =>
      if offset == 0 then ["tzinfo=datetime.timezone.utc"]
      else ["tzinfo=datetime.timezone(" ++ spanText offset ++ ")"]
  "datetime.datetime(" ++ ", ".intercalate ((start ++ tail).map toString ++ zone) ++ ")"

end Moment

end BundleLint
