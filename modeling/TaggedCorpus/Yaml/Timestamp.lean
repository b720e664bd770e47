import TaggedCorpus.Value
import TaggedCorpus.Yaml.Fault

/-!
Dates and moments as YAML writes them.

A date may be followed by a time, the time by a fraction of a second, and all of it by an offset.
-/

namespace TaggedCorpus.Yaml

open Number (isDigit ofDigits)

/-- A time of day as it is written: its numbers, the digits of the fraction, and the offset in
minutes. -/
structure WrittenTime where
  hour : Text
  minute : Text
  second : Text
  fraction : Text
  offset : Option Int

/-- A date as it is written, with a time or without. -/
structure Timestamp where
  year : Text
  month : Text
  day : Text
  time : Option WrittenTime

namespace Timestamp

/-- The next characters if they are digits, at least one and at most so many of them. -/
def digits? (least most : Nat) (t : Text) : Option (Text × Text) :=
  let digits := (t.take most).takeWhile isDigit
  if least ≤ digits.length then some (digits, t.drop digits.length) else none

/-- What follows this character. -/
def after? (c : Char) : Text → Option Text
  | [] => none
  | d :: rest => if c == d then some rest else none

def skipBlanks (t : Text) : Text := t.dropWhile fun c => c == ' ' || c == '\t'

/-- The offset at the end: nothing, a letter for universal time, or a sign, hours and perhaps
minutes. -/
def offset? (t : Text) : Option (Option Int) :=
  match t, skipBlanks t with
  | [], _ => some none
  | _, ['Z'] => some (some 0)
  | _, sign :: rest => do
    if sign != '+' && sign != '-' then none
    let (hours, rest) ← digits? 1 2 rest
    let minutes ← match rest with
      | [] => some []
      | rest => do
        let (minutes, rest) ← digits? 2 2 (← after? ':' rest)
        if rest.isEmpty then some minutes else none
    let n : Int := ofDigits 10 hours * 60 + ofDigits 10 minutes
    some (some (if sign == '-' then -n else n))
  | _, [] => none

/-- The time after a date. -/
def time? (t : Text) : Option WrittenTime := do
  let (hour, rest) ← digits? 1 2 t
  let (minute, rest) ← digits? 2 2 (← after? ':' rest)
  let (second, rest) ← digits? 2 2 (← after? ':' rest)
  let (fraction, rest) := match rest with
    | '.' :: rest => (rest.takeWhile isDigit, rest.dropWhile isDigit)
    | rest => ([], rest)
  let offset ← offset? rest
  some { hour, minute, second, fraction, offset }

/-- What parts a date from a time: one letter, or blanks. -/
def afterDate? : Text → Option Text
  | [] => none
  | c :: rest =>
    if c == 'T' || c == 't' then some rest
    else if c == ' ' || c == '\t' then some (skipBlanks rest)
    else none

/-- The date that a text writes, with its time if there is one. -/
def parse? (t : Text) : Option Timestamp := do
  let (year, rest) ← digits? 4 4 t
  let (month, rest) ← digits? 1 2 (← after? '-' rest)
  let (day, rest) ← digits? 1 2 (← after? '-' rest)
  if rest.isEmpty then some { year, month, day, time := none }
  else
    let time ← time? (← afterDate? rest)
    some { year, month, day, time := some time }

/-- Whether a timestamp is one without being marked as such. A date alone has two digits for its
month and its day. -/
def isEvident (s : Timestamp) : Bool :=
  s.time.isSome || (s.month.length == 2 && s.day.length == 2)

/-- The first six digits of a fraction as millionths. -/
def millionths (fraction : Text) : Nat :=
  let digits := fraction.take 6
  ofDigits 10 (digits ++ List.replicate (6 - digits.length) '0')

/-- The date or moment that is written. -/
def value (s : Timestamp) : Except CalendarFault Value :=
  let (year, month, day) := (ofDigits 10 s.year, ofDigits 10 s.month, ofDigits 10 s.day)
  match s.time with
  | none => (Date.of? year month day).map .date
  | some t => (Moment.of? year month day (ofDigits 10 t.hour) (ofDigits 10 t.minute)
      (ofDigits 10 t.second) (millionths t.fraction) t.offset).map .moment

end Timestamp

end TaggedCorpus.Yaml
