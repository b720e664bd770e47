import TaggedCorpus.Encoding.CharacterSet
import TaggedCorpus.Encoding.Codec

/-!
Encodings in which characters are sequences of bytes, read one sequence after the other.

What a sequence stands for may depend on what was read before it.
-/

namespace TaggedCorpus.MultiByte

/-- What the sequence at a place comes to: a text, the number of its bytes and what is to be
remembered; or one that is cut off; or a fault in so many bytes. -/
inductive Outcome (σ : Type)
  | text (t : Text) (length : Nat) (state : σ)
  | cutOff
  | fault (length : Nat)

/-- The outcome of a sequence that stands for a character or for nothing. -/
def Outcome.ofChar? {σ : Type} (c? : Option Char) (length faultLength : Nat) (state : σ) :
    Outcome σ :=
  match c? with
  | some c => .text [c] length state
  | none => .fault faultLength

/-- How the sequence that begins with a byte is read. -/
abbrev Step (σ : Type) := σ → UInt8 → List UInt8 → Outcome σ

/-- How many bytes a sequence may have that is cut off. -/
def maxWaiting : Nat := 8

/-- Decodes bytes of which the first has this position, and tells what is remembered where the
decoding ends. -/
def decodeFrom {σ : Type} (codecName : String) (step : Step σ) :
    (fuel position : Nat) → σ → List UInt8 → Decoded × σ
  | _, _, state, [] => (.done, state)
  | 0, _, state, _ => (.done, state)
  | fuel + 1, position, state, b :: rest =>
    match step state b rest with
    | .text t length state =>
      let (d, state) :=
        decodeFrom codecName step fuel (position + length) state (rest.drop (length - 1))
      (d.append t, state)
    | .cutOff =>
      let waiting := 1 + rest.length
      if maxWaiting < waiting then (⟨[], .broken .overlong⟩, state)
      else (.cutOff waiting ⟨codecName, b, 0, waiting, .incompleteSequence⟩, state)
    | .fault length => (.broken ⟨codecName, b, position, length, .illegalSequence⟩, state)

/-- What waits for a piece that fails is lost with it, and the reading goes on with what is
remembered at the fault. -/
def codec {σ : Type} (codecName : String) (step : Step σ) (start : σ) : Codec (σ × Waiting) where
  start := (start, .none)
  feed := fun (state, waiting) piece =>
    let bytes := waiting.bytes ++ piece
    let (d, state) := decodeFrom codecName step bytes.length 0 state bytes
    match d.ending with
    | .broken f => (.error f, state, .none)
    | _ => (.ok d.text, state, .after bytes d)
  finish := fun (_, waiting) => waiting.atEnd

/-- Characters of one byte that is in ASCII and of two bytes otherwise. -/
def doubleByte (pair? : Nat → Nat → Option Char) : Step Unit := fun _ a rest =>
  if a.toNat < 0x80 then .text [Char.ofNat a.toNat] 1 ()
  else match rest with
    | [] => .cutOff
    | b :: _ => .ofChar? (pair? a.toNat b.toNat) 2 1 ()

/-- The characters in the cells of a set, each byte with its highest bit set. -/
def pairOf (s : CharacterSet) (a b : Nat) : Option Char := s.ofBytes? (a - 0x80) (b - 0x80)

end TaggedCorpus.MultiByte
