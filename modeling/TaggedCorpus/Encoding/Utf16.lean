import TaggedCorpus.Encoding.Codec

/-!
UTF-16 in either byte order, and with the order told by a mark.
-/

namespace TaggedCorpus.Utf16

/-- Which byte of a unit comes first. -/
inductive Order
  | little
  | big

/-- The codec as messages call it. -/
def Order.codecName : Order → String
  | .little => "utf-16-le"
  | .big => "utf-16-be"

/-- The unit that two bytes make. -/
def Order.unit (o : Order) (first second : UInt8) : Nat :=
  match o with
  | .little => second.toNat * 256 + first.toNat
  | .big => first.toNat * 256 + second.toNat

def isHighSurrogate (n : Nat) : Bool := 0xD800 ≤ n && n ≤ 0xDBFF

def isLowSurrogate (n : Nat) : Bool := 0xDC00 ≤ n && n ≤ 0xDFFF

/-- The code point of a pair of surrogates. -/
def joinSurrogates (high low : Nat) : Nat := 0x10000 + (high - 0xD800) * 0x400 + (low - 0xDC00)

/-- Decodes bytes of which the first has this position. -/
def decodeFrom (o : Order) : (position : Nat) → List UInt8 → Decoded
  | _, [] => .done
  | _, [b] => .cutOff 1 ⟨o.codecName, b, 0, 1, .oddLength⟩
  | position, a :: b :: rest =>
    let n := o.unit a b
    if isHighSurrogate n then
      match rest with
      | c :: d :: rest =>
        if isLowSurrogate (o.unit c d) then
          (decodeFrom o (position + 4) rest).cons (Char.ofNat (joinSurrogates n (o.unit c d)))
        else .broken ⟨o.codecName, a, position, 2, .badSurrogatePair⟩
      | rest => .cutOff (2 + rest.length) ⟨o.codecName, a, 0, 2 + rest.length, .endOfData⟩
    else if isLowSurrogate n then .broken ⟨o.codecName, a, position, 2, .loneSurrogate⟩
    else (decodeFrom o (position + 2) rest).cons (Char.ofNat n)

/-- Decodes bytes in a known order; a mark at their start counts as a part of the text. -/
def decode (o : Order) (bytes : List UInt8) : Decoded := decodeFrom o 0 bytes

/-- The order that the mark at the start of bytes tells. -/
def markedOrder? : List UInt8 → Option Order
  | 0xFF :: 0xFE :: _ => some .little
  | 0xFE :: 0xFF :: _ => some .big
  | _ => none

/-- Decodes bytes of which the first unit tells the order. Without a mark they are read with the low
byte first, which fails once it gives a character. -/
def decodeMarked : List UInt8 → Decoded
  | 0xFF :: 0xFE :: rest => decodeFrom .little 2 rest
  | 0xFE :: 0xFF :: rest => decodeFrom .big 2 rest
  | bytes =>
    let d := decode .little bytes
    match d.ending with
    | .broken _ => d
    | _ => if d.text.isEmpty then d else ⟨[], .broken (.noByteOrderMark 16)⟩

def codec (o : Order) : Codec Waiting := .buffered (decode o)

def markedCodec : Codec (Option Order × Waiting) := .ordered markedOrder? decodeMarked decode

end TaggedCorpus.Utf16
