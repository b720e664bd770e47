import TaggedCorpus.Encoding.Utf16

/-!
UTF-32 in either byte order, and with the order told by a mark.
-/

namespace TaggedCorpus.Utf32

open Utf16 (Order)

/-- The codec as messages call it. -/
def codecName : Order → String
  | .little => "utf-32-le"
  | .big => "utf-32-be"

/-- The unit that four bytes make. -/
def unit (o : Order) (a b c d : UInt8) : Nat :=
  match o with
  | .little => o.unit c d * 0x10000 + o.unit a b
  | .big => o.unit a b * 0x10000 + o.unit c d

/-- Decodes bytes of which the first has this position. -/
def decodeFrom (o : Order) : (position : Nat) → List UInt8 → Decoded
  | _, [] => .done
  | position, a :: b :: c :: d :: rest =>
    let n := unit o a b c d
    if 0x10FFFF < n then .broken ⟨codecName o, a, position, 4, .pastLastCharacter⟩
    else if 0xD800 ≤ n && n ≤ 0xDFFF then .broken ⟨codecName o, a, position, 4, .surrogate⟩
    else (decodeFrom o (position + 4) rest).cons (Char.ofNat n)
  | _, a :: rest => .cutOff (1 + rest.length) ⟨codecName o, a, 0, 1 + rest.length, .oddLength⟩

/-- Decodes bytes in a known order; a mark at their start counts as a part of the text. -/
def decode (o : Order) (bytes : List UInt8) : Decoded := decodeFrom o 0 bytes

/-- The order that the mark at the start of bytes tells. -/
def markedOrder? : List UInt8 → Option Order
  | 0xFF :: 0xFE :: 0 :: 0 :: _ => some .little
  | 0 :: 0 :: 0xFE :: 0xFF :: _ => some .big
  | _ => none

/-- Decodes bytes of which the first unit tells the order. Without a mark they are read with the low
byte first, which fails once it gives a character. -/
def decodeMarked : List UInt8 → Decoded
  | 0xFF :: 0xFE :: 0 :: 0 :: rest => decodeFrom .little 4 rest
  | 0 :: 0 :: 0xFE :: 0xFF :: rest => decodeFrom .big 4 rest
  | bytes =>
    let d := decode .little bytes
    match d.ending with
    | .broken _ => d
    | _ => if d.text.isEmpty then d else ⟨[], .broken (.noByteOrderMark 32)⟩

def codec (o : Order) : Codec Waiting := .buffered (decode o)

def markedCodec : Codec (Option Order × Waiting) := .ordered markedOrder? decodeMarked decode

end TaggedCorpus.Utf32
