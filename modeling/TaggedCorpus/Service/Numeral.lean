import TaggedCorpus.Number.Exact
import TaggedCorpus.Number.Literal

/-!
Whole numbers as requests may write them.

A numeral has a sign or none and no needless zeros. A text that is no numeral is read as one
after blanks, a plus sign, zeros before the number or after a point and underscores within it are
taken away.
-/

namespace TaggedCorpus.Service

/-- Why a text or number stands for no whole number. -/
inductive NumeralFault
  | malformed
  | outOfRange
  | fractional
  | infinite
  deriving DecidableEq

namespace Numeral

open Number (isDigit)

/-- The longest numeral, with its sign. -/
def maxLength : Nat := 4300

/-- The numeral that a text is. It is too long if the digits at its start are too many. -/
def parse (t : Text) : Except NumeralFault Int :=
  let (negative, digits) := match t with
    | '-' :: rest => (true, rest)
    | _ => (false, t)
  let run := digits.takeWhile isDigit
  if digits.head? == some '0' then
    if digits.length == 1 then .ok 0 else .error .malformed
  else if maxLength < run.length + (if negative then 1 else 0) then .error .outOfRange
  else if run.isEmpty || run.length < digits.length then .error .malformed
  else
    let n : Int := Number.ofDigits 10 digits
    .ok (if negative then -n else n)

/-- A text without the plus sign at its start, which no minus sign may follow. -/
def dropPlus? : Text → Option Text
  | '+' :: '-' :: _ => none
  | '+' :: rest => some rest
  | t => some t

/-- A text, of which `last` is the last character read, from its first digit but zero or its
sign on. A zero before a point is kept, and so is the last character of all. -/
def fromFirstDigit? (last : Char) : Text → Option Text
  | [] => some [last]
  | c :: rest =>
    if c == '0' || c == '_' then fromFirstDigit? c rest
    else if isDigit c || c == '-' then some (c :: rest)
    else if c == '.' then some (last :: c :: rest)
    else none

/-- A text without the zeros at its start. -/
def dropZeros? : Text → Option Text
  | [] => none
  | c :: rest =>
    if c == '0' then fromFirstDigit? c rest
    else if isDigit c || c == '-' then some (c :: rest)
    else none

/-- A text without a point and the zeros after it. -/
def dropFraction (t : Text) : Text :=
  let whole := t.takeWhile (· != '.')
  let zeros := t.drop (whole.length + 1)
  if !zeros.isEmpty && zeros.all (· == '0') then whole else t

/-- A text without its underscores, if they are single and within it. -/
def ungroup (t : Text) : Text :=
  if (t.splitOn '_').all fun g => !g.isEmpty then t.filter (· != '_') else t

/-- A text without what a numeral may not have. -/
def clean? (t : Text) : Option Text := do
  let t ← dropPlus? (Text.trimWhere Text.isWhiteSpace t)
  return ungroup (dropFraction (← dropZeros? t))

/-- The whole number that a text writes. -/
def read (t : Text) : Except NumeralFault Int :=
  match parse t, clean? t with
  | .error .malformed, some cleaned => parse cleaned
  | result, _ => result

/-- The whole number that a floating-point number is. It has to lie within 64 bits. -/
def ofFloat (x : Float) : Except NumeralFault Int :=
  match Number.Exact.ofFloat? x with
  | none => .error .infinite
  | some e => match e.toInt? with
    | none => .error .fractional
    | some n => if n.natAbs < Nat.pow 2 63 then .ok n else .error .outOfRange

end Numeral

end TaggedCorpus.Service
