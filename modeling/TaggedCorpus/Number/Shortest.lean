import TaggedCorpus.Number.Exact

/-!
Floating-point numbers written with the fewest digits that read back to them.

The reals that round to a number make an interval around it. On the grid of all multiples of a
power of ten, one of the two neighbours of the number lies in that interval if any point of the
grid does. So the search goes from coarse grids to fine ones and looks at two points of each.
-/

namespace TaggedCorpus.Number

/-- The reals that round to a number `value / unit`, from `low / unit` to `high / unit`. -/
structure Rounding where
  low : Nat
  value : Nat
  high : Nat
  unit : Nat
  closed : Bool

/-- The interval of a number's absolute value. Its ends count if its mantissa is even. -/
def Exact.rounding (x : Exact) : Rounding :=
  let up := Nat.pow 2 (x.exponent - 2).toNat
  { low := (4 * x.mantissa - if x.narrowBelow then 1 else 2) * up
    value := 4 * x.mantissa * up
    high := (4 * x.mantissa + 2) * up
    unit := Nat.pow 2 (2 - x.exponent).toNat
    closed := x.mantissa % 2 == 0 }

namespace Rounding

/-- The interval counted in units of `10 ^ power`. -/
def scale (r : Rounding) (power : Int) : Rounding :=
  let up := Nat.pow 10 (-power).toNat
  { r with
    low := r.low * up
    value := r.value * up
    high := r.high * up
    unit := r.unit * Nat.pow 10 power.toNat }

/-- Whether a whole number of units lies in the interval. -/
def contains (r : Rounding) (n : Nat) : Bool :=
  let m := n * r.unit
  (r.low < m && m < r.high) || (r.closed && (m == r.low || m == r.high))

/-- The whole number in the interval that is nearest to the value, if one of the value's two
neighbours lies in it. Of two that are equally near, the even one is taken. -/
def nearest? (r : Rounding) : Option Nat :=
  let below := r.value / r.unit
  let above := below + 1
  let middle := (below + above) * r.unit
  match r.contains below, r.contains above with
  | false, false => none
  | true, false => some below
  | false, true => some above
  | true, true =>
    if 2 * r.value < middle || (2 * r.value == middle && below % 2 == 0) then some below
    else some above

/-- The least power of ten above the value, near an estimate. -/
def leadingPower (r : Rounding) : Int :=
  let guess : Int := ((r.value.log2 : Int) - r.unit.log2) * 30103 / 100000
  let isAbove (k : Int) : Bool := r.value * Nat.pow 10 (-k).toNat < r.unit * Nat.pow 10 k.toNat
  (([guess - 1, guess, guess + 1].find? isAbove)).getD (guess + 2)

/-- The digits and the power of ten on the coarsest grid that meets the interval. -/
def shortest (r : Rounding) : Nat × Int :=
  let top := r.leadingPower
  let found := (List.range 17).findSome? fun (i : Nat) =>
    let power := top - 1 - i
    (r.scale power).nearest?.map (·, power)
  found.getD ((r.scale (top - 17)).value / (r.scale (top - 17)).unit, top - 17)

end Rounding

/-! ### Notation -/

/-- The decimal digits of a number without the zeros at the end. -/
def significantDigits (n : Nat) : List Char :=
  ((toString n).toList.reverse.dropWhile (· == '0')).reverse

/-- A power of ten behind a number: its sign and at least two digits. -/
def exponentMark (e : Int) : List Char :=
  let digits := (toString e.natAbs).toList
  ['e', if e < 0 then '-' else '+'] ++ List.replicate (2 - digits.length) '0' ++ digits

/-- Digits whose point stands after the first `point` of them. From one ten-thousandth up to ten
to the sixteenth power the number is written with its point in place, and at least one digit
follows the point; others are written with the point after the first digit and a power of ten. -/
def writeDigits (digits : List Char) (point : Int) : List Char :=
  if point ≤ -4 || 16 < point then
    digits.take 1 ++ (if digits.length ≤ 1 then [] else '.' :: digits.drop 1) ++
      exponentMark (point - 1)
  else if point ≤ 0 then ['0', '.'] ++ List.replicate (-point).toNat '0' ++ digits
  else
    let whole := digits.take point.toNat
    let part := digits.drop point.toNat
    whole ++ List.replicate (point.toNat - whole.length) '0' ++ ['.'] ++
      (if part.isEmpty then ['0'] else part)

/-- A finite number without its sign. -/
def Exact.text (x : Exact) : List Char :=
  if x.mantissa == 0 then ['0', '.', '0']
  else
    let (digits, power) := x.rounding.shortest
    writeDigits (significantDigits digits) ((toString digits).length + power)

/-- A floating-point number, written with the fewest digits that read back to it. -/
def floatText (x : Float) : String :=
  if x.isNaN then "nan"
  else match Exact.ofFloat? x with
    | some e => (if e.negative then "-" else "") ++ String.ofList e.text
    | none => if x < 0 then "-inf" else "inf"

end TaggedCorpus.Number
