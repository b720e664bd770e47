import TaggedCorpus.Encoding.DomainName
import TaggedCorpus.Encoding.Escape
import TaggedCorpus.Encoding.Name
import TaggedCorpus.Encoding.SingleByte
import TaggedCorpus.Encoding.Utf32
import TaggedCorpus.Encoding.Utf7
import TaggedCorpus.Encoding.Utf8

/-!
Decoding by encoding.
-/

namespace TaggedCorpus

/-- The codec that makes no text of anything, not even of nothing. -/
def Codec.refusing : Codec Unit where
  start := ()
  feed _ _ := (.error .undefined, ())
  finish _ := .stuck .undefined

/-- What the bytes of a file are read as. -/
def Encoding.decode : Encoding → List UInt8 → Content
  | utf8 => Utf8.codec.decode
  | utf8Marked => Utf8.markedCodec.decode
  | utf16 => Utf16.markedCodec.decode
  | utf16LittleEndian => (Utf16.codec .little).decode
  | utf16BigEndian => (Utf16.codec .big).decode
  | utf32 => Utf32.markedCodec.decode
  | utf32LittleEndian => (Utf32.codec .little).decode
  | utf32BigEndian => (Utf32.codec .big).decode
  | utf7 => Utf7.codec.decode
  | escapes => (Escape.codec .all).decode
  | codePointEscapes => (Escape.codec .codePoints).decode
  | punycode => Punycode.codec.decode
  | domainName => DomainName.codec.decode
  | latin1 => SingleByte.latin1Codec.decode
  | ascii => SingleByte.asciiCodec.decode
  | codePage p => (SingleByte.codePageCodec p).decode
  | eastAsian e => e.decode
  | undefined => Codec.refusing.decode

end TaggedCorpus
