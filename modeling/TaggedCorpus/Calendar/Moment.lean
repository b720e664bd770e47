import TaggedCorpus.Calendar.Date

/-!
Moments of days, which may come with their distance from universal time.
-/

namespace TaggedCorpus

def minutesPerDay : Int := 24 * 60

/-- A moment of a day. Its offset is the distance of its clock from universal time in minutes,
which is less than a day either way. -/
structure Moment where
  date : Date
  hour : Nat
  minute : Nat
  second : Nat
  microsecond : Nat
  offset : Option Int
  deriving DecidableEq

/-- A length of time of whole minutes: its days, the last one begun, and the seconds after
them. -/
def spanText (minutes : Int) : String :=
  let days := Int.fdiv minutes minutesPerDay
  let seconds := Int.fmod minutes minutesPerDay * 60
  let parts := (if days == 0 then [] else [s!"days={days}"]) ++
    (if seconds == 0 then [] else [s!"seconds={seconds}"])
  "datetime.timedelta(" ++ (if parts.isEmpty then "0" else ", ".intercalate parts) ++ ")"

def CalendarFault.message : CalendarFault → String
  | year n => s!"year {n} is out of range"
  | month => "month must be in 1..12"
  | day => "day is out of range for month"
  | hour => "hour must be in 0..23"
  | minute => "minute must be in 0..59"
  | second => "second must be in 0..59"
  | offset minutes =>
    "offset must be a timedelta strictly between -timedelta(hours=24) and timedelta(hours=24), " ++
      "not " ++ spanText minutes ++ "."

namespace Moment

/-- An offset that is less than a day either way. -/
def checkOffset (minutes : Int) : Except CalendarFault Int :=
  if -minutesPerDay < minutes && minutes < minutesPerDay then .ok minutes
  else .error (.offset minutes)

/-- The moment with these numbers. The offset is looked at first, then the date. -/
def of? (year month day hour minute second microsecond : Nat) (offset : Option Int) :
    Except CalendarFault Moment := do
  let offset ← offset.mapM checkOffset
  let date ← Date.of? year month day
  if 23 < hour then throw .hour
  if 59 < minute then throw .minute
  if 59 < second then throw .second
  return { date, hour, minute, second, microsecond, offset }

/-- The seconds since the beginning of the calendar by the moment's own clock, or by universal
time if the offset is known. -/
def seconds (m : Moment) : Int :=
  m.date.dayNumber * 86400 + (m.hour * 60 + m.minute) * 60 + m.second - m.offset.getD 0 * 60

/-- Whether two moments are the same. One with an offset is never the same as one without. -/
def same (a b : Moment) : Bool :=
  a.offset.isSome == b.offset.isSome && a.seconds == b.seconds && a.microsecond == b.microsecond

/-- The offset with its sign. -/
def offsetText (minutes : Int) : String :=
  (if minutes < 0 then "-" else "+") ++ padded 2 (minutes.natAbs / 60) ++ ":" ++
    padded 2 (minutes.natAbs % 60)

/-- The date, the time, the fraction of a second if there is one, and the offset if it is
known. -/
def text (m : Moment) : String :=
  let fraction := if m.microsecond == 0 then "" else "." ++ padded 6 m.microsecond
  s!"{m.date.text} {padded 2 m.hour}:{padded 2 m.minute}:{padded 2 m.second}" ++ fraction ++
    (m.offset.map offsetText).getD ""

/-- The numbers of the time, of which zeros at the end are left out after the minute. -/
def timeParts (m : Moment) : List Nat :=
  let parts := [m.hour, m.minute]
  if m.microsecond != 0 then parts ++ [m.second, m.microsecond]
  else if m.second != 0 then parts ++ [m.second]
  else parts

/-- The offset as it stands within a moment. -/
def zoneText (minutes : Int) : String :=
  if minutes == 0 then "datetime.timezone.utc"
  else "datetime.timezone(" ++ spanText minutes ++ ")"

/-- The moment as it stands within a list or mapping. -/
def nestedText (m : Moment) : String :=
  let numbers := [m.date.year, m.date.month, m.date.day] ++ m.timeParts
  "datetime.datetime(" ++ ", ".intercalate (numbers.map toString) ++
    (m.offset.map fun o => ", tzinfo=" ++ zoneText o).getD "" ++ ")"

end Moment

end TaggedCorpus
