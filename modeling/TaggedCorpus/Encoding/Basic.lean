import TaggedCorpus.Text.Quoted

/-!
What decoding bytes can come to.

Bytes are decoded piece by piece. Those that no continuation can mend fail the piece they are in.
A sequence that the end of a piece cuts off waits for what follows, and only the end of the file
tells that nothing does.
-/

namespace TaggedCorpus

/-- What is wrong with a group of bytes. -/
inductive ByteProblem
  | badStart
  | badContinuation
  | endOfData
  | outsideAscii
  | unassigned
  | oddLength
  | loneSurrogate
  | badSurrogatePair
  | surrogate
  | pastLastCharacter
  | partialCharacter
  | paddingBits
  | unterminated
  | illFormed
  | special
  | truncatedEscape (shape : String)
  | trailingBackslash
  | noSuchCharacter
  | escapeOutOfRange
  | malformedName
  | unknownName
  | illegalSequence
  | incompleteSequence
  | reported (message : String)
  deriving DecidableEq

def ByteProblem.message : ByteProblem → String
  | .badStart => "invalid start byte"
  | .badContinuation => "invalid continuation byte"
  | .endOfData => "unexpected end of data"
  | .outsideAscii => "ordinal not in range(128)"
  | .unassigned => "character maps to <undefined>"
  | .oddLength => "truncated data"
  | .loneSurrogate => "illegal encoding"
  | .badSurrogatePair => "illegal UTF-16 surrogate"
  | .surrogate => "code point in surrogate code point range(0xd800, 0xe000)"
  | .pastLastCharacter => "code point not in range(0x110000)"
  | .partialCharacter => "partial character in shift sequence"
  | .paddingBits => "non-zero padding bits in shift sequence"
  | .unterminated => "unterminated shift sequence"
  | .illFormed => "ill-formed sequence"
  | .special => "unexpected special character"
  | .truncatedEscape shape => "truncated " ++ shape ++ " escape"
  | .trailingBackslash => "\\ at end of string"
  | .noSuchCharacter => "illegal Unicode character"
  | .escapeOutOfRange => "\\Uxxxxxxxx out of range"
  | .malformedName => "malformed \\N character escape"
  | .unknownName => "unknown Unicode character name"
  | .illegalSequence => "illegal multibyte sequence"
  | .incompleteSequence => "incomplete multibyte sequence"
  | .reported message => message

/-- The first group of bytes that does not decode: its first byte, where it starts, how long it
is, and what is wrong with it. -/
structure ByteFault where
  codec : String
  byte : UInt8
  position : Nat
  length : Nat
  problem : ByteProblem
  deriving DecidableEq

def ByteFault.message (f : ByteFault) : String :=
  let place :=
    if f.length == 1 then
      "byte 0x" ++ String.ofList (Text.hex 2 f.byte.toNat) ++ s!" in position {f.position}"
    else s!"bytes in position {f.position}-{f.position + f.length - 1}"
  "'" ++ f.codec ++ "' codec can't decode " ++ place ++ ": " ++ f.problem.message

/-- What is wrong with numbers that tell where characters go. -/
inductive PunycodeFault
  | incomplete
  | badDigit (c : Char)
  | badCharacter (n : Nat)
  deriving DecidableEq

def PunycodeFault.message : PunycodeFault → String
  | incomplete => "incomplete punicode string"
  | badDigit c => "Invalid extended code point '" ++ String.ofList [c] ++ "'"
  | badCharacter n => "Invalid character U+" ++ String.ofList (Nat.toDigits 16 n)

/-- Why bytes are no text: some of them do not decode, a mark that tells the order of bytes is
missing in units of some width, a number is wrong, also one within a label of a domain name, a
sequence at the end of the file is too long to go on, or the encoding makes no text of anything. -/
inductive DecodeFault
  | bytes (f : ByteFault)
  | noByteOrderMark (width : Nat)
  | punycode (f : PunycodeFault)
  | label (f : PunycodeFault)
  | overlong
  | undefined
  deriving DecidableEq

def DecodeFault.message : DecodeFault → String
  | bytes f => f.message
  | noByteOrderMark width => s!"UTF-{width} stream does not start with BOM"
  | punycode f => f.message
  | label f => "decoding with 'punycode' codec failed (UnicodeError: " ++ f.message ++ ")"
  | overlong => "pending buffer overflow"
  | undefined => "undefined encoding"

/-- What follows the text of a file: nothing, or a fault again and again, or one fault with what
is read after it. -/
inductive ContentEnd
  | complete
  | cutOff (f : DecodeFault)
  | broken (f : DecodeFault) (text : Text) (ending : ContentEnd)
  deriving DecidableEq

/-- What a file is read as: the text up to the first fault, and what follows it. -/
structure Content where
  text : Text
  ending : ContentEnd
  deriving DecidableEq

namespace Content

/-- Nothing left to read. -/
def done : Content := ⟨[], .complete⟩

/-- More text in front. -/
def append (t : Text) (c : Content) : Content := ⟨t ++ c.text, c.ending⟩

/-- A fault in front. -/
def after (f : DecodeFault) (c : Content) : Content := ⟨[], .broken f c.text c.ending⟩

/-- A fault that stays. -/
def stuck (f : DecodeFault) : Content := ⟨[], .cutOff f⟩

end Content

/-- How the decoding of bytes ends: all are decoded, or some do not decode whatever follows, or so
many of them wait for what follows, and it is known what they come to if nothing does. -/
inductive DecodeEnd
  | complete
  | broken (f : DecodeFault)
  | cutOff (waiting : Nat) (atEnd : Content)
  deriving DecidableEq

/-- The text that bytes decode to, and how their decoding ends. -/
structure Decoded where
  text : Text
  ending : DecodeEnd
  deriving DecidableEq

namespace Decoded

/-- Nothing left to decode. -/
def done : Decoded := ⟨[], .complete⟩

/-- One more character in front. -/
def cons (c : Char) (d : Decoded) : Decoded := ⟨c :: d.text, d.ending⟩

/-- More characters in front. -/
def append (t : Text) (d : Decoded) : Decoded := ⟨t ++ d.text, d.ending⟩

/-- Decoding that stops at a group of bytes. -/
def broken (f : ByteFault) : Decoded := ⟨[], .broken (.bytes f)⟩

/-- Decoding that stops within a group of so many bytes, which are at fault if nothing follows. -/
def cutOff (waiting : Nat) (f : ByteFault) : Decoded :=
  ⟨[], .cutOff waiting (.stuck (.bytes f))⟩

end Decoded

end TaggedCorpus
