/-!
# Points in time

A document may hold a date, or a date with a time of day, which may be tied to
universal time by an offset. Two moments that are tied so are the same when they
are the same instant.
-/

namespace RunOnce.Document

/-- A time of day. -/
structure TimeOfDay where
  hour : Nat
  minute : Nat
  second : Nat
  millionths : Nat := 0
deriving DecidableEq, Repr

/-- A date with an optional time of day. -/
structure Moment where
  year : Nat
  month : Nat
  day : Nat
  time : Option TimeOfDay := none
  /-- The offset of the time of day from universal time, in minutes. -/
  offset : Option Int := none
deriving DecidableEq, Repr

/-- Digits filled up with zeros to a width. -/
def zeroFilled (width n : Nat) : String :=
  let digits := toString n
  String.ofList (List.replicate (width - digits.length) '0') ++ digits

/-- How a span of so many minutes is shown inside a message: whole days, and the
seconds that they leave. -/
def spanText (minutes : Int) : String :=
  let days := Int.fdiv minutes 1440
  let seconds := 60 * Int.fmod minutes 1440
  let parts := (if days = 0 then [] else ["days=" ++ toString days]) ++
    (if seconds = 0 then [] else ["seconds=" ++ toString seconds])
  "datetime.timedelta(" ++ (if parts.isEmpty then "0" else ", ".intercalate parts) ++ ")"

namespace Moment

/-- Whether a year has a day more than others. -/
def isLeapYear (year : Nat) : Bool :=
  year % 4 == 0 && (year % 100 != 0 || year % 400 == 0)

/-- The number of days in a month. -/
def daysIn (year month : Nat) : Nat :=
  if month = 2 then (if isLeapYear year then 29 else 28)
  else if month = 4 ∨ month = 6 ∨ month = 9 ∨ month = 11 then 30
  else 31

/-- Why a time of day is impossible. -/
def timeFault? (time : TimeOfDay) : Option String :=
  if 23 < time.hour then some "hour must be in 0..23"
  else if 59 < time.minute then some "minute must be in 0..59"
  else if 59 < time.second then some "second must be in 0..59"
  else none

/-- Why an offset is impossible: it must be less than a day. -/
def offsetFault? (offset : Int) : Option String :=
  if offset.natAbs < 1440 then none
  else some ("offset must be a timedelta strictly between -timedelta(hours=24) and " ++
    "timedelta(hours=24), not " ++ spanText offset ++ ".")

/-- Why a moment is impossible. The offset is looked at first. -/
def fault? (moment : Moment) : Option String :=
  match moment.offset.bind offsetFault? with
  | some fault => some fault
  | none =>
    if moment.year = 0 then some "year 0 is out of range"
    else if moment.month = 0 ∨ 12 < moment.month then some "month must be in 1..12"
    else if moment.day = 0 ∨ daysIn moment.year moment.month < moment.day then
      some "day is out of range for month"
    else moment.time.bind timeFault?

/-- The days from a fixed date on. -/
def dayNumber (moment : Moment) : Nat :=
  let past := moment.year - 1
  let months := (List.range (moment.month - 1)).map fun index => daysIn moment.year (index + 1)
  365 * past + past / 4 - past / 100 + past / 400 + months.foldl Nat.add 0 + moment.day

/-- The millionths of a second from a fixed instant on, where an offset says how
a time of day stands to universal time. -/
def instant (moment : Moment) (time : TimeOfDay) (offset : Int) : Int :=
  let minutes : Int := 1440 * moment.dayNumber + 60 * time.hour + time.minute - offset
  (60 * minutes + time.second) * 1000000 + time.millionths

/-- Whether two moments are the same. -/
def isSame (first second : Moment) : Bool :=
  match first.time, first.offset, second.time, second.offset with
  | some time, some offset, some time', some offset' =>
    first.instant time offset == second.instant time' offset'
  | _, _, _, _ => first == second

/-- The text of a date. -/
def dateText (moment : Moment) : String :=
  zeroFilled 4 moment.year ++ "-" ++ zeroFilled 2 moment.month ++ "-" ++ zeroFilled 2 moment.day

/-- The text of a time of day. -/
def timeText (time : TimeOfDay) : String :=
  zeroFilled 2 time.hour ++ ":" ++ zeroFilled 2 time.minute ++ ":" ++ zeroFilled 2 time.second ++
    (if time.millionths = 0 then "" else "." ++ zeroFilled 6 time.millionths)

/-- The text of an offset. -/
def offsetText (offset : Int) : String :=
  (if offset < 0 then "-" else "+") ++ zeroFilled 2 (offset.natAbs / 60) ++ ":" ++
    zeroFilled 2 (offset.natAbs % 60)

/-- The text of a moment. -/
def text (moment : Moment) : String :=
  match moment.time with
  | none => moment.dateText
  | some time =>
    moment.dateText ++ " " ++ timeText time ++ (moment.offset.map offsetText).getD ""

/-- How an offset is shown inside a message. -/
def displayOffset (offset : Int) : String :=
  if offset = 0 then "tzinfo=datetime.timezone.utc"
  else "tzinfo=datetime.timezone(" ++ spanText offset ++ ")"

/-- How a moment is shown inside a message. -/
def display (moment : Moment) : String :=
  let date := [moment.year, moment.month, moment.day].map toString
  match moment.time with
  | none => "datetime.date(" ++ ", ".intercalate date ++ ")"
  | some time =>
    let clock := [time.hour, time.minute] ++
      (if time.second = 0 ∧ time.millionths = 0 then [] else [time.second]) ++
      (if time.millionths = 0 then [] else [time.millionths])
    let zone := (moment.offset.map displayOffset).toList
    "datetime.datetime(" ++ ", ".intercalate (date ++ clock.map toString ++ zone) ++ ")"

end Moment

end RunOnce.Document
