/-!
The exact value of a floating-point number: a natural number times a power of two, with a sign.
-/

namespace TaggedCorpus.Number

/-- A finite number. Its neighbour towards zero may be only half as far away as the other one. -/
structure Exact where
  negative : Bool
  mantissa : Nat
  exponent : Int
  narrowBelow : Bool
  deriving DecidableEq

/-- The exact value of a number that is finite. -/
def Exact.ofFloat? (x : Float) : Option Exact :=
  let bits := x.toBits
  let negative := bits >>> 63 == 1
  let power := ((bits >>> 52) &&& 0x7FF).toNat
  let part := (bits &&& 0xFFFFFFFFFFFFF).toNat
  if power == 0x7FF then none
  else if power == 0 then some ⟨negative, part, -1074, false⟩
  else some ⟨negative, Nat.pow 2 52 + part, power - 1075, part == 0 && 1 < power⟩

/-- The numbers of `a * 2 ^ i` and `b * 2 ^ j` in a unit that suits both. -/
def onCommonScale (a : Int) (i : Int) (b : Int) (j : Int) : Int × Int :=
  (a * Nat.pow 2 (i - j).toNat, b * Nat.pow 2 (j - i).toNat)

namespace Exact

/-- The mantissa with its sign. -/
def signed (x : Exact) : Int := if x.negative then -x.mantissa else x.mantissa

/-- Whether two numbers are equal; both zeros are. -/
def equals (x y : Exact) : Bool :=
  let (a, b) := onCommonScale x.signed x.exponent y.signed y.exponent
  a == b

/-- A whole number as such a value. -/
def ofInt (n : Int) : Exact := ⟨n < 0, n.natAbs, 0, false⟩

/-- The whole number that the value is. -/
def toInt? (x : Exact) : Option Int :=
  let unit := Nat.pow 2 (-x.exponent).toNat
  if x.mantissa % unit == 0 then
    some (x.signed / unit * Nat.pow 2 x.exponent.toNat)
  else none

end Exact

end TaggedCorpus.Number
