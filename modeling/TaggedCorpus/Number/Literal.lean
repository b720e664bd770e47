import TaggedCorpus.Text.Quoted

/-!
Numbers read from texts: whole numbers in a base, and decimal ones.

Blanks around a number do not count, and digits of all scripts do.
-/

namespace TaggedCorpus.Number

/-- Why a text is no number. -/
inductive LiteralFault
  | notWhole (base : Nat) (t : Text)
  | notDecimal (t : Text)
  | tooManyDigits (count : Nat)
  deriving DecidableEq

/-- The longest whole number that may be read, in digits, unless its base is a power of two. -/
def maxDigits : Nat := 4300

namespace LiteralFault

/-- How much of a text that is no whole number is shown. -/
def shownLength : Nat := 200

def message : LiteralFault → String
  | notWhole base t =>
    s!"invalid literal for int() with base {base}: " ++
      String.ofList ((Text.quoted t).take shownLength)
  | notDecimal t => "could not convert string to float: " ++ t.quote
  | tooManyDigits count =>
    s!"Exceeds the limit ({maxDigits} digits) for integer string conversion: value has {count} " ++
      "digits; use sys.set_int_max_str_digits() to increase the limit"

end LiteralFault

/-! ### Plain characters -/

/-- The blanks that may stand around a number. -/
def isPadding (c : Char) : Bool := c == ' ' || ('\t' ≤ c && c ≤ '\r')

/-- A character as numbers are read: blanks and digits beyond ASCII become those within it, and
all else beyond it becomes something that is in no number. -/
def plainChar (c : Char) : Char :=
  if c.toNat < 0x7F then c
  else if Text.isBlank c then ' '
  else match Text.decimalValue? c with
    | some d => Nat.digitChar d
    | none => '?'

/-- What is left of a text to be read as a number. -/
def plainForm (t : Text) : Text := Text.trimWhere isPadding (t.map plainChar)

/-- A number's sign and what follows it. -/
def splitSign : Text → Bool × Text
  | '-' :: rest => (true, rest)
  | '+' :: rest => (false, rest)
  | t => (false, t)

def isDigit (c : Char) : Bool := '0' ≤ c && c ≤ '9'

/-- The value of a digit in a base up to sixteen. -/
def digitValue? (base : Nat) (c : Char) : Option Nat :=
  let n := c.toNat
  let value? :=
    if isDigit c then some (n - '0'.toNat)
    else if 'a' ≤ c && c ≤ 'f' then some (n - 'a'.toNat + 10)
    else if 'A' ≤ c && c ≤ 'F' then some (n - 'A'.toNat + 10)
    else none
  value?.filter (· < base)

/-- The number that digits of a base write. -/
def ofDigits (base : Nat) (digits : Text) : Nat :=
  digits.foldl (fun n c => n * base + (digitValue? base c).getD 0) 0

/-! ### Whole numbers -/

/-- The letter that tells a base after a zero. -/
def baseLetter? : Nat → Option Char
  | 2 => some 'b'
  | 8 => some 'o'
  | 16 => some 'x'
  | _ => none

/-- The digits of a number without the mark of its base. -/
def dropBaseMark (base : Nat) (t : Text) : Text :=
  match t with
  | '0' :: c :: rest => if baseLetter? base == some c.toLower then rest else t
  | _ => t

/-- The whole number in a text. In the base ten the number of digits is limited, and what follows
the digits is only looked at if there are not too many of them. -/
def whole (base : Nat) (t : Text) : Except LiteralFault Int := do
  let (negative, body) := splitSign (plainForm t)
  let body := dropBaseMark base body
  let digits := body.takeWhile fun c => (digitValue? base c).isSome
  if (baseLetter? base).isNone && maxDigits < digits.length then
    throw (.tooManyDigits digits.length)
  if digits.isEmpty || digits.length < body.length then throw (.notWhole base t)
  let n : Int := ofDigits base digits
  return if negative then -n else n

/-! ### Decimal numbers -/

def infinity : Float := 1.0 / 0.0

def notANumber : Float := 0.0 / 0.0

/-- The number next to `n * 10 ^ power`. Powers far out of range are not worked out. -/
def nearest (n : Nat) (power : Int) : Float :=
  let size := (toString n).length + power
  if n == 0 || size < -400 then 0.0
  else if 400 < size then infinity
  else if power < 0 then Float.ofScientific n true power.natAbs
  else Float.ofScientific n false power.natAbs

/-- The power of ten after a letter: a sign and digits. -/
def exponent? (t : Text) : Option Int :=
  match t with
  | [] => some 0
  | e :: rest =>
    let (negative, digits) := splitSign rest
    if e.toLower == 'e' && !digits.isEmpty && digits.all isDigit then
      let n : Int := ofDigits 10 digits
      some (if negative then -n else n)
    else none

/-- A decimal number without its sign: digits with a point among them or none, and a power of
ten. -/
def unsigned? (t : Text) : Option Float :=
  let whole := t.takeWhile isDigit
  let (part, rest) := match t.drop whole.length with
    | '.' :: rest => (rest.takeWhile isDigit, rest.dropWhile isDigit)
    | rest => ([], rest)
  if whole.isEmpty && part.isEmpty then none
  else (exponent? rest).map fun power =>
    nearest (ofDigits 10 (whole ++ part)) (power - part.length)

/-- The decimal number in a text, or infinity, or what is no number. -/
def decimal (t : Text) : Except LiteralFault Float :=
  let (negative, body) := splitSign (plainForm t)
  let word := String.ofList (body.map Char.toLower)
  let value? :=
    if word == "inf" || word == "infinity" then some infinity
    else if word == "nan" then some notANumber
    else unsigned? body
  match value? with
  | some x => .ok (if negative then -x else x)
  | none => .error (.notDecimal t)

end TaggedCorpus.Number
