import TaggedCorpus.Encoding.Basic

/-!
Encodings as a file is read in them, piece by piece.

What one piece leaves waiting is decoded together with the next one. A piece that does not decode is
lost, also what stands before its fault, but the reading goes on with the pieces after it.
-/

namespace TaggedCorpus

/-- Bytes that wait for what follows them, and what they come to if nothing does. -/
structure Waiting where
  bytes : List UInt8
  atEnd : Content

/-- Nothing waits. -/
def Waiting.none : Waiting := ⟨[], .done⟩

/-- The bytes that wait after these have been decoded. -/
def Waiting.after (bytes : List UInt8) (d : Decoded) : Waiting :=
  match d.ending with
  | .cutOff n atEnd => ⟨bytes.drop (bytes.length - n), atEnd⟩
  | _ => .none

/-- What is remembered from one piece to the next, what a piece comes to and what is remembered
after it, and what follows the last piece. -/
structure Codec (σ : Type) where
  start : σ
  feed : σ → List UInt8 → Except DecodeFault Text × σ
  finish : σ → Content

namespace Codec

variable {σ : Type}

/-- A piece is decoded together with what waits for it. If that fails, the same bytes go on
waiting. -/
def buffered (decode : List UInt8 → Decoded) : Codec Waiting where
  start := .none
  feed waiting piece :=
    let bytes := waiting.bytes ++ piece
    let d := decode bytes
    match d.ending with
    | .broken f => (.error f, waiting)
    | _ => (.ok d.text, .after bytes d)
  finish := Waiting.atEnd

/-- What waits and a piece are decoded without knowing the order of bytes until a piece has told it,
and from then on in that order. A piece that fails tells nothing. -/
def ordered {ω : Type} (order? : List UInt8 → Option ω) (decodeMarked : List UInt8 → Decoded)
    (decode : ω → List UInt8 → Decoded) : Codec (Option ω × Waiting) where
  start := (none, .none)
  feed := fun (order, waiting) piece =>
    match (buffered (order.elim decodeMarked decode)).feed waiting piece with
    | (.error f, waiting) => (.error f, order, waiting)
    | (.ok t, rest) => (.ok t, order.or (order? (waiting.bytes ++ piece)), rest)
  finish := fun (_, waiting) => waiting.atEnd

/-- How many bytes of a file are read at a time. -/
def pieceLength : Nat := 8192

/-- The pieces that a file is read in. -/
def pieces : (fuel : Nat) → List UInt8 → List (List UInt8)
  | _, [] => []
  | 0, _ => []
  | fuel + 1, bytes => bytes.take pieceLength :: pieces fuel (bytes.drop pieceLength)

/-- What the pieces of a file come to, with what is remembered before them. -/
def read (c : Codec σ) : σ → List (List UInt8) → Content
  | s, [] => c.finish s
  | s, piece :: rest =>
    match c.feed s piece with
    | (.ok t, s) => (c.read s rest).append t
    | (.error f, s) => (c.read s rest).after f

/-- What the bytes of a file are read as. -/
def decode (c : Codec σ) (bytes : List UInt8) : Content :=
  c.read c.start (pieces bytes.length bytes)

end Codec

end TaggedCorpus
