import BundleLint.Calendar
import BundleLint.Number.Integer
import BundleLint.Value

/-!
# Timestamps

The written form of a date or a time: a date, or a date with a time of day that may have a fraction
and a zone. The form says nothing about whether the parts exist in the calendar.
-/

namespace BundleLint.Yaml

/-- The zone of a time. -/
inductive Zone where
  /-- Universal time. -/
  | universal
  /-- Hours and minutes ahead of universal time, or behind it. -/
  | shifted (behind : Bool) (hours minutes : Nat)
  deriving DecidableEq, Repr

/-- The time of day in a timestamp. -/
structure ClockParts where
  /-- Hour. -/
  hour : Nat
  /-- Minute. -/
  minute : Nat
  /-- Second. -/
  second : Nat
  /-- Digits of the fraction of a second. -/
  fraction : List Char
  /-- Zone, if there is one. -/
  zone : Option Zone
  deriving DecidableEq, Repr

/-- The parts of a timestamp. -/
structure TimestampParts where
  /-- Year. -/
  year : Nat
  /-- Month. -/
  month : Nat
  /-- Day. -/
  day : Nat
  /-- Time of day, if there is one. -/
  clock : Option ClockParts
  deriving DecidableEq, Repr

/-- A text without its last character if that is a line feed. -/
def beforeFinalFeed (text : List Char) : List Char :=
  if text.getLast? == some '\n' then text.dropLast else text

private def isDecimalDigit (c : Char) : Bool :=
  '0' ≤ c && c ≤ '9'

/-- Takes a number of at least `least` and at most `most` digits off a text. -/
def takeNumber? (least most : Nat) (text : List Char) : Option (Nat × List Char) :=
  let digits := (text.take most).takeWhile isDecimalDigit
  if digits.length < least then none
  else some (Number.ofDigits 10 digits, text.drop digits.length)

/-- Takes a character off a text. -/
def takeChar? (expected : Char) : List Char → Option (List Char)
  | [] => none
  | c :: rest => if c == expected then some rest else none

/-- Space and tab, which may stand around a time. -/
private def isTimeSpace (c : Char) : Bool :=
  c == ' ' || c == '\t'

/-- Takes what separates a date from a time off a text. -/
def takeDateEnd? (text : List Char) : Option (List Char) :=
  match text with
  | [] => none
  | c :: rest =>
    if c == 'T' || c == 't' then some rest
    else if isTimeSpace c then some (rest.dropWhile isTimeSpace)
    else none

/-- The minutes of a zone, which are the rest of a timestamp. -/
def zoneMinutes? (text : List Char) : Option Nat :=
  if text.isEmpty then some 0
  else do
    let rest ← takeChar? ':' text
    let (minutes, rest) ← takeNumber? 2 2 rest
    if rest.isEmpty then some minutes else none

/-- The zone of a time, which is the rest of a timestamp. Gives nothing if the rest is no zone. -/
def zone? (text : List Char) : Option (Option Zone) :=
  match text.dropWhile isTimeSpace with
  | [] => if text.isEmpty then some none else none
  | 'Z' :: rest => if rest.isEmpty then some (some .universal) else none
  | c :: rest => do
    if c != '+' && c != '-' then none
    let (hours, rest) ← takeNumber? 1 2 rest
    let minutes ← zoneMinutes? rest
    return some (.shifted (c == '-') hours minutes)

/-- The time of day, which is the rest of a timestamp. -/
def clockParts? (text : List Char) : Option ClockParts := do
  let (hour, rest) ← takeNumber? 1 2 text
  let rest ← takeChar? ':' rest
  let (minute, rest) ← takeNumber? 2 2 rest
  let rest ← takeChar? ':' rest
  let (second, rest) ← takeNumber? 2 2 rest
  let (fraction, rest) :=
    match rest with
    | '.' :: rest => (rest.takeWhile isDecimalDigit, rest.dropWhile isDecimalDigit)
    | rest => ([], rest)
  let zone ← zone? rest
  return { hour, minute, second, fraction, zone }

/-- The parts of a timestamp; nothing if the text is none. -/
def timestampParts? (literal : List Char) : Option TimestampParts := do
  let (year, rest) ← takeNumber? 4 4 literal
  let rest ← takeChar? '-' rest
  let (month, rest) ← takeNumber? 1 2 rest
  let rest ← takeChar? '-' rest
  let (day, rest) ← takeNumber? 1 2 rest
  if rest.isEmpty then return { year, month, day, clock := none }
  else
    let clock ← clockParts? (← takeDateEnd? rest)
    return { year, month, day, clock := some clock }

/-- Whether a text is a timestamp on its own: without a time, all its digits are needed. -/
def isTimestamp (literal : List Char) : Bool :=
  match timestampParts? literal with
  | some parts => parts.clock.isSome || literal.length == 10
  | none => false

/-- Microseconds of the digits of a fraction, of which six count. -/
def microseconds (fraction : List Char) : Nat :=
  let digits := fraction.take 6
  Number.ofDigits 10 (digits ++ List.replicate (6 - digits.length) '0')

/-- Minutes ahead of universal time. -/
def Zone.offset : Zone → Except CalendarFault Int
  | .universal => .ok 0
  | .shifted behind hours minutes =>
    let size : Int := hours * 60 + minutes
    Moment.checkOffset (if behind then -size else size)

/-- The date or the time with these parts. -/
def TimestampParts.value (parts : TimestampParts) : Except CalendarFault Value :=
  match parts.clock with
  | none => (Date.make parts.year parts.month parts.day).map .date
  | some clock => do
    let offset ← clock.zone.mapM Zone.offset
    let moment ←
      Moment.make parts.year parts.month parts.day clock.hour clock.minute clock.second
        (microseconds clock.fraction) offset
    return .moment moment

end BundleLint.Yaml
