import TaggedCorpus.Encoding.SingleByte

/-!
Punycode: the ASCII characters of a text, and after the last hyphen where the others go.

Each of the others is told by a number that counts on, from the one before it, through all places
and characters where it might go. The digits of a number have weights that depend on how large
numbers were before.
-/

namespace TaggedCorpus.Punycode

/-- The digit that a letter stands for, in either case. -/
def digit? (c : Char) : Option Nat :=
  let c := c.toUpper
  if 'A' ≤ c && c ≤ 'Z' then some (c.toNat - 'A'.toNat)
  else if '0' ≤ c && c ≤ '9' then some (c.toNat - '0'.toNat + 26)
  else none

/-- The least value of a digit that does not end a number. -/
def threshold (place bias : Nat) : Nat := min 26 (max 1 (36 * (place + 1) - bias))

/-- The number that comes next and what follows it, from a place on, where a digit has this
weight. -/
def number (bias : Nat) : (place weight sum : Nat) → Text → Except PunycodeFault (Nat × Text)
  | _, _, _, [] => .error .incomplete
  | place, weight, sum, c :: rest =>
    match digit? c with
    | none => .error (.badDigit c.toUpper)
    | some d =>
      let t := threshold place bias
      let sum := sum + d * weight
      if d < t then .ok (sum, rest) else number bias (place + 1) (weight * (36 - t)) sum rest

/-- A number divided until it is small, and how often. -/
def scaleDown : (fuel : Nat) → Nat → Nat × Nat
  | 0, n => (n, 0)
  | fuel + 1, n =>
    if 455 < n then
      let (m, times) := scaleDown fuel (n / 35)
      (m, times + 1)
    else (n, 0)

/-- How the weights change after a number, the first one or not, in a text of this length. -/
def adapt (number : Nat) (isFirst : Bool) (length : Nat) : Nat :=
  let n := if isFirst then number / 700 else number / 2
  let n := n + n / length
  let (n, times) := scaleDown n n
  times * 36 + 36 * n / (n + 38)

/-- A text that is being completed: the place and character that counting has come to. -/
structure Progress where
  text : Text
  place : Nat := 0
  character : Nat := 0x80
  bias : Nat := 72
  isFirst : Bool := true

/-- The text with the character that is so many steps further on. -/
def Progress.insert (p : Progress) (steps : Nat) : Except PunycodeFault Progress :=
  let places := p.text.length + 1
  let reached := p.place + steps
  let character := p.character + reached / places
  if 0x10FFFF < character then .error (.badCharacter character)
  else
    let place := reached % places
    let c := if character.isValidChar then Char.ofNat character else '\ufffd'
    .ok {
      text := p.text.take place ++ c :: p.text.drop place
      place := place + 1
      character
      bias := adapt steps p.isFirst places
      isFirst := false }

/-- Completes a text by the numbers in another one. -/
def complete : (fuel : Nat) → Progress → Text → Except PunycodeFault Text
  | _, p, [] => .ok p.text
  | 0, p, _ => .ok p.text
  | fuel + 1, p, numbers => do
    let (steps, rest) ← number p.bias 0 1 0 numbers
    complete fuel (← p.insert steps) rest

/-- The parts before and after the last hyphen; all is after it if there is none. -/
def split (bytes : List UInt8) : List UInt8 × List UInt8 :=
  let after := (bytes.reverse.takeWhile (· != 0x2D)).reverse
  (bytes.take (bytes.length - after.length - 1), after)

def decode (bytes : List UInt8) : Decoded :=
  let (base, numbers) := split bytes
  let base := SingleByte.decodeAscii base
  let numbers := SingleByte.decodeAscii numbers
  match base.ending, numbers.ending with
  | .complete, .complete =>
    match complete numbers.text.length { text := base.text } numbers.text with
    | .ok t => ⟨t, .complete⟩
    | .error f => ⟨[], .broken (.punycode f)⟩
  | .complete, _ => numbers
  | _, _ => base

/-- Each piece is a text by itself, as nothing waits. -/
def codec : Codec Waiting := .buffered decode

end TaggedCorpus.Punycode
