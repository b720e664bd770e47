import TaggedCorpus.Encoding.Codec

/-!
UTF-8, read byte by byte.

The first byte of a sequence tells how many bytes follow and in which range the second one has
to lie, which rules out overlong forms, surrogates and numbers past the last code point.
-/

namespace TaggedCorpus.Utf8

/-- A sequence that has begun: its first byte, how many of its bytes were read and how many are
missing, the range of the next one, and the bits read so far. -/
structure Sequence where
  lead : UInt8
  read : Nat
  missing : Nat
  low : Nat
  high : Nat
  bits : Nat

/-- The sequence that a first byte begins, unless it stands for itself or begins none. -/
def Sequence.ofLead? (lead : UInt8) : Option Sequence :=
  let n := lead.toNat
  if 0xC2 ≤ n && n ≤ 0xDF then some ⟨lead, 1, 1, 0x80, 0xBF, n - 0xC0⟩
  else if 0xE0 ≤ n && n ≤ 0xEF then
    some ⟨lead, 1, 2, if n == 0xE0 then 0xA0 else 0x80, if n == 0xED then 0x9F else 0xBF, n - 0xE0⟩
  else if 0xF0 ≤ n && n ≤ 0xF4 then
    some ⟨lead, 1, 3, if n == 0xF0 then 0x90 else 0x80, if n == 0xF4 then 0x8F else 0xBF, n - 0xF0⟩
  else none

/-- The sequence with one more byte read. -/
def Sequence.push (s : Sequence) (b : UInt8) : Sequence :=
  { s with
    read := s.read + 1
    missing := s.missing - 1
    low := 0x80
    high := 0xBF
    bits := s.bits * 64 + (b.toNat - 0x80) }

/-- Whether the second byte of a sequence makes it a surrogate. Such a sequence is refused, but only
once a third byte has come or it is known that none follows. -/
def Sequence.beginsSurrogate (s : Sequence) (b : UInt8) : Bool :=
  s.lead == 0xED && s.read == 1 && 0xA0 ≤ b.toNat && b.toNat ≤ 0xBF

/-- Decodes bytes of which the first has this position, within a sequence or between two. -/
def decodeFrom : (position : Nat) → Option Sequence → List UInt8 → Decoded
  | _, none, [] => .done
  | _, some s, [] => .cutOff s.read ⟨"utf-8", s.lead, 0, s.read, .endOfData⟩
  | position, none, b :: rest =>
    if b.toNat < 0x80 then (decodeFrom (position + 1) none rest).cons (Char.ofNat b.toNat)
    else match Sequence.ofLead? b with
      | some s => decodeFrom (position + 1) (some s) rest
      | none => .broken ⟨"utf-8", b, position, 1, .badStart⟩
  | position, some s, b :: rest =>
    if s.low ≤ b.toNat && b.toNat ≤ s.high then
      let next := s.push b
      if next.missing == 0 then
        (decodeFrom (position + 1) none rest).cons (Char.ofNat next.bits)
      else decodeFrom (position + 1) (some next) rest
    else if s.beginsSurrogate b && rest.isEmpty then
      .cutOff 2 ⟨"utf-8", s.lead, 0, s.read, .badContinuation⟩
    else .broken ⟨"utf-8", s.lead, position - s.read, s.read, .badContinuation⟩

def decode (bytes : List UInt8) : Decoded := decodeFrom 0 none bytes

/-- The three bytes that mark a file as UTF-8. -/
def mark : List UInt8 := [0xEF, 0xBB, 0xBF]

/-- Whether bytes may still turn out to begin with the mark. -/
def mayBeMarked (bytes : List UInt8) : Bool :=
  bytes.length < mark.length && bytes.isPrefixOf mark

def codec : Codec Waiting := .buffered decode

/-- The mark may stand at the start and does not count as a part of the text. Less than a whole
mark decodes to nothing. -/
def markedCodec : Codec (Bool × Waiting) where
  start := (true, .none)
  feed := fun (atStart, waiting) piece =>
    let bytes := waiting.bytes ++ piece
    if atStart && mayBeMarked bytes then (.ok [], true, ⟨bytes, .done⟩)
    else
      let length := if atStart && mark.isPrefixOf bytes then mark.length else 0
      let unmarked : Codec Waiting := .buffered fun bytes => decode (bytes.drop length)
      let (result, waiting) := unmarked.feed waiting piece
      (result, false, waiting)
  finish := fun (_, waiting) => waiting.atEnd

end TaggedCorpus.Utf8
