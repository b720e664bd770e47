import TaggedCorpus.Encoding.CodePage
import TaggedCorpus.Encoding.Codec

/-!
Encodings in which every byte is one character.
-/

namespace TaggedCorpus.SingleByte

/-- Decodes bytes of which the first has this position, by a table of characters. -/
def decodeFrom (codecName : String) (problem : ByteProblem) (table : UInt8 → Option Char) :
    (position : Nat) → List UInt8 → Decoded
  | _, [] => .done
  | position, b :: rest =>
    match table b with
    | some c => (decodeFrom codecName problem table (position + 1) rest).cons c
    | none => .broken ⟨codecName, b, position, 1, problem⟩

/-- The code point with the byte's number. -/
def latin1 (b : UInt8) : Option Char := some (Char.ofNat b.toNat)

def ascii (b : UInt8) : Option Char := if b.toNat < 0x80 then latin1 b else none

def decodeLatin1 (bytes : List UInt8) : Decoded :=
  decodeFrom "latin-1" .outsideAscii latin1 0 bytes

def decodeAscii (bytes : List UInt8) : Decoded := decodeFrom "ascii" .outsideAscii ascii 0 bytes

def decodeCodePage (p : CodePage) (bytes : List UInt8) : Decoded :=
  let last := p.last
  decodeFrom "charmap" .unassigned (CodePage.charOf? last) 0 bytes

def latin1Codec : Codec Waiting := .buffered decodeLatin1

def asciiCodec : Codec Waiting := .buffered decodeAscii

def codePageCodec (p : CodePage) : Codec Waiting := .buffered (decodeCodePage p)

end TaggedCorpus.SingleByte
