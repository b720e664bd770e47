import TaggedCorpus.Encoding.Base64
import TaggedCorpus.Encoding.Utf16

/-!
UTF-7: ASCII in which a plus sign begins a stretch of letters that stand for six bits each.

The bits of a stretch make units of UTF-16. A character that is no such letter ends the stretch,
and a hyphen that does so is not a part of the text.
-/

namespace TaggedCorpus.Utf7

/-- The codec as messages call it. -/
def codecName : String := "utf7"

/-- A stretch that has begun: where its plus sign is, the bits that make no unit yet, the first
half of a pair of surrogates, and the text so far, in reverse. -/
structure Stretch where
  start : Nat
  bitCount : Nat := 0
  bits : Nat := 0
  high : Option Nat := none
  text : Text := []

namespace Stretch

/-- A surrogate is no character by itself; the replacement character stands for it. -/
def loneSurrogate : Char := '\ufffd'

/-- The stretch with one more unit. -/
def addUnit (s : Stretch) (n : Nat) : Stretch :=
  match s.high with
  | some high =>
    if Utf16.isLowSurrogate n then
      { s with high := none, text := Char.ofNat (Utf16.joinSurrogates high n) :: s.text }
    else begin { s with high := none, text := loneSurrogate :: s.text } n
  | none => begin s n
where
  /-- A unit that completes no pair. -/
  begin (s : Stretch) (n : Nat) : Stretch :=
    if Utf16.isHighSurrogate n then { s with high := some n }
    else if Utf16.isLowSurrogate n then { s with text := loneSurrogate :: s.text }
    else { s with text := Char.ofNat n :: s.text }

/-- The stretch with one more letter. -/
def addLetter (s : Stretch) (sixBits : Nat) : Stretch :=
  let bits := s.bits * 64 + sixBits
  if 10 ≤ s.bitCount then
    let left := s.bitCount - 10
    let unit := Nat.pow 2 left
    addUnit { s with bitCount := left, bits := bits % unit } (bits / unit)
  else { s with bitCount := s.bitCount + 6, bits }

/-- What is wrong with the bits that are left at the end of a stretch. -/
def problem? (s : Stretch) : Option ByteProblem :=
  if 6 ≤ s.bitCount then some .partialCharacter
  else if s.bits != 0 then some .paddingBits
  else none

/-- The text of a stretch that ends before a character. -/
def textBefore (s : Stretch) : Text :=
  (if s.high.isSome then loneSurrogate :: s.text else s.text).reverse

end Stretch

/-- What a byte outside a stretch is. -/
inductive Outside
  | character (c : Char)
  | escapedPlus
  | start
  | fault (length : Nat) (problem : ByteProblem)

/-- What a byte outside a stretch is, by what follows it. -/
def outside (b : UInt8) (rest : List UInt8) : Outside :=
  if b == 0x2B then
    match rest with
    | [] => .start
    | c :: _ =>
      if c == 0x2D then .escapedPlus
      else if (Base64.bits? (Char.ofNat c.toNat)).isSome then .start
      else .fault 2 .illFormed
  else if b.toNat < 0x80 then .character (Char.ofNat b.toNat)
  else .fault 1 .special

/-- Decodes bytes of which the first has this position, within a stretch or outside one. A stretch
waits until it has ended. -/
def decodeFrom (position : Nat) (s? : Option Stretch) (bytes : List UInt8) : Decoded :=
  match s?, bytes with
  | none, [] => .done
  | some s, [] =>
    let waiting := position - s.start
    ⟨[], .cutOff waiting
      (if s.high.isSome || s.problem?.isSome then
        .stuck (.bytes ⟨codecName, 0x2B, 0, waiting, .unterminated⟩)
      else ⟨s.text.reverse, .complete⟩)⟩
  | none, b :: rest =>
    match outside b rest with
    | .character c => (decodeFrom (position + 1) none rest).cons c
    | .escapedPlus => (decodeFrom (position + 2) none (rest.drop 1)).cons '+'
    | .start => decodeFrom (position + 1) (some { start := position }) rest
    | .fault length problem => .broken ⟨codecName, b, position, length, problem⟩
  | some s, b :: rest =>
    match Base64.bits? (Char.ofNat b.toNat), s.problem? with
    | some n, _ => decodeFrom (position + 1) (some (s.addLetter n)) rest
    | none, some p => .broken ⟨codecName, 0x2B, s.start, position + 1 - s.start, p⟩
    | none, none =>
      let after :=
        if b == 0x2D then decodeFrom (position + 1) none rest
        else decodeFrom position none (b :: rest)
      after.append (if b.toNat < 0x80 then s.textBefore else s.text.reverse)
termination_by (bytes.length, s?.isSome.toNat)

def decode (bytes : List UInt8) : Decoded := decodeFrom 0 none bytes

def codec : Codec Waiting := .buffered decode

end TaggedCorpus.Utf7
