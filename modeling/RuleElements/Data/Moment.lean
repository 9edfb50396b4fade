/-!
# Days and times

A moment is a day of the calendar, or a time on such a day. A time may tell by how many minutes its
clock is ahead of universal time; two times that do are the same moment if they fall together.

Main definitions:
* `Moment.ofParts`: a moment from numbers, which must fit the calendar and the clock.
* `Moment.same`: whether two moments are one.
* `Moment.iso`, `Moment.display`: the written form, and the form in messages.
-/

namespace RuleElements

/-- What is wrong with the numbers of a moment. -/
inductive CalendarFault
  | year (year : Nat)
  | month
  | day
  | hour
  | minute
  | second
  /-- the clock is a day or more away from universal time -/
  | offset (minutes : Int)
  deriving DecidableEq, Repr, Inhabited

/-- A span of minutes in messages: whole days, and the seconds of the rest. -/
def displayMinutes (minutes : Int) : String :=
  let days := minutes.fdiv 1440
  let seconds := minutes.fmod 1440 * 60
  let part (name : String) (n : Int) : List String :=
    if n = 0 then [] else [name ++ "=" ++ toString n]
  let parts := part "days" days ++ part "seconds" seconds
  "datetime.timedelta(" ++ (if parts.isEmpty then "0" else ", ".intercalate parts) ++ ")"

/-- The wording of what is wrong. -/
def CalendarFault.message : CalendarFault → String
  | .year n => "year " ++ toString n ++ " is out of range"
  | .month => "month must be in 1..12"
  | .day => "day is out of range for month"
  | .hour => "hour must be in 0..23"
  | .minute => "minute must be in 0..59"
  | .second => "second must be in 0..59"
  | .offset minutes =>
    "offset must be a timedelta strictly between -timedelta(hours=24) and timedelta(hours=24), " ++
      "not " ++ displayMinutes minutes ++ "."

/-- A day of the calendar. -/
structure CalendarDay where
  year : Nat
  month : Nat
  day : Nat
  deriving DecidableEq, Repr, Inhabited

namespace CalendarDay

/-- Whether a year has 366 days. -/
def isLeap (year : Nat) : Bool := year % 4 == 0 && (year % 100 != 0 || year % 400 == 0)

/-- The days of the months of a year. -/
def monthLengths (year : Nat) : List Nat :=
  [31, if isLeap year then 29 else 28, 31, 30, 31, 30, 31, 31, 30, 31, 30, 31]

/-- The day with the given year, month and day. -/
def ofParts (year month day : Nat) : Except CalendarFault CalendarDay :=
  if year = 0 then .error (.year year)
  else if month = 0 || 12 < month then .error .month
  else if day = 0 || (monthLengths year).getD (month - 1) 0 < day then .error .day
  else .ok ⟨year, month, day⟩

/-- The number of days up to a day, counted from the first one of the year one. -/
def number (d : CalendarDay) : Nat :=
  let before := d.year - 1
  365 * before + before / 4 - before / 100 + before / 400 +
    ((monthLengths d.year).take (d.month - 1)).foldl (· + ·) 0 + d.day

end CalendarDay

/-- The time that a clock shows. -/
structure ClockTime where
  hour : Nat
  minute : Nat
  second : Nat
  microsecond : Nat
  /-- by how many minutes the clock is ahead of universal time, if that is known -/
  offset : Option Int
  deriving DecidableEq, Repr, Inhabited

namespace ClockTime

/-- A time whose parts a clock shows. -/
def check (t : ClockTime) : Except CalendarFault ClockTime :=
  if 23 < t.hour then .error .hour
  else if 59 < t.minute then .error .minute
  else if 59 < t.second then .error .second
  else .ok t

/-- The microseconds since midnight, on the clock itself. -/
def microseconds (t : ClockTime) : Int :=
  ((t.hour * 60 + t.minute) * 60 + t.second) * 1000000 + t.microsecond

end ClockTime

/-- A day, or a time on a day. -/
structure Moment where
  day : CalendarDay
  time : Option ClockTime
  deriving DecidableEq, Repr, Inhabited

namespace Moment

/-- A moment whose numbers fit the calendar and the clock; the clock's distance from universal time
is looked at first. -/
def ofParts (year month day : Nat) (time : Option ClockTime) : Except CalendarFault Moment :=
  match time with
  | none => (CalendarDay.ofParts year month day).map fun day => ⟨day, none⟩
  | some time => do
    match time.offset with
    | some minutes => if 1440 ≤ minutes.natAbs then throw (.offset minutes)
    | none => pure ()
    return ⟨← CalendarDay.ofParts year month day, some (← time.check)⟩

/-- The microseconds of a time, on the clock of universal time if its distance is known. -/
def instant (m : Moment) (t : ClockTime) : Int :=
  (m.day.number * 86400 - t.offset.getD 0 * 60) * 1000000 + t.microseconds

/-- Whether two moments are one: the same day, or times that fall together. A time whose clock is at
a known distance from universal time differs from any other. -/
def same (a b : Moment) : Bool :=
  match a.time, b.time with
  | none, none => a.day == b.day
  | some s, some t => s.offset.isSome == t.offset.isSome && a.instant s == b.instant t
  | _, _ => false

/-- A number with zeros before it up to a width. -/
def padded (width n : Nat) : String :=
  let digits := toString n
  String.ofList (List.replicate (width - digits.length) '0') ++ digits

/-- The distance from universal time in the written form. -/
def offsetText : Option Int → String
  | none => ""
  | some minutes =>
    if minutes = 0 then "Z"
    else
      (if minutes < 0 then "-" else "+") ++ padded 2 (minutes.natAbs / 60) ++ ":" ++
        padded 2 (minutes.natAbs % 60)

/-- The written form. -/
def iso (m : Moment) : String :=
  let date := padded 4 m.day.year ++ "-" ++ padded 2 m.day.month ++ "-" ++ padded 2 m.day.day
  match m.time with
  | none => date
  | some t =>
    date ++ "T" ++ padded 2 t.hour ++ ":" ++ padded 2 t.minute ++ ":" ++ padded 2 t.second ++
      (if t.microsecond = 0 then "" else "." ++ padded 6 t.microsecond) ++ offsetText t.offset

/-- The word for the type of a moment in messages. -/
def typeName (m : Moment) : String :=
  if m.time.isSome then "datetime.datetime" else "datetime.date"

/-- The form in messages. -/
def display (m : Moment) : String :=
  let zone : Option Int → List String
    | none => []
    | some 0 => ["tzinfo=datetime.timezone.utc"]
    | some minutes => ["tzinfo=datetime.timezone(" ++ displayMinutes minutes ++ ")"]
  let parts : List String :=
    match m.time with
    | none => []
    | some t =>
      let small := if t.microsecond = 0 then (if t.second = 0 then [] else [t.second])
        else [t.second, t.microsecond]
      ([t.hour, t.minute] ++ small).map toString ++ zone t.offset
  m.typeName ++ "(" ++
    ", ".intercalate ([m.day.year, m.day.month, m.day.day].map toString ++ parts) ++ ")"

end Moment

example : Moment.iso ⟨⟨2001, 12, 14⟩, some ⟨21, 59, 43, 100000, some (-300)⟩⟩ =
    "2001-12-14T21:59:43.100000-05:00" := by decide +kernel

example : Moment.display ⟨⟨2001, 12, 14⟩, some ⟨7, 0, 0, 0, some (-300)⟩⟩ =
    "datetime.datetime(2001, 12, 14, 7, 0, " ++
      "tzinfo=datetime.timezone(datetime.timedelta(days=-1, seconds=68400)))" := by decide +kernel

end RuleElements
