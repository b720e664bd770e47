import TaggedCorpus.Text.Printable

/-!
Texts and bytes in quotes, as error messages show them.

A text stands in single quotes, or in double quotes if it holds a single quote and no double
one. The quote in use and the backslash are escaped, and so is all that does not print. Bytes stand
in quotes behind the letter b, and those outside of ASCII are escaped.
-/

namespace TaggedCorpus.Text

/-- One hexadecimal digit. -/
def hexDigit (n : Nat) : Char := (Nat.digitChar (n % 16))

/-- The lowest `width` hexadecimal digits of a number. -/
def hex : (width n : Nat) → Text
  | 0, _ => []
  | width + 1, n => hex width (n / 16) ++ [hexDigit n]

/-- The quote that a text is put into. -/
def quoteMark (t : Text) : Char :=
  if t.contains '\'' && !t.contains '"' then '"' else '\''

/-- How a character is written between quotes. -/
def escape (quote c : Char) : Text :=
  if c == quote || c == '\\' then ['\\', c]
  else if c == '\t' then ['\\', 't']
  else if c == '\n' then ['\\', 'n']
  else if c == '\r' then ['\\', 'r']
  else if isPrintable c then [c]
  else if c.toNat < 0x100 then '\\' :: 'x' :: hex 2 c.toNat
  else if c.toNat < 0x10000 then '\\' :: 'u' :: hex 4 c.toNat
  else '\\' :: 'U' :: hex 8 c.toNat

/-- The text in quotes. -/
def quoted (t : Text) : Text :=
  quoteMark t :: t.flatMap (escape (quoteMark t)) ++ [quoteMark t]

/-- The text in quotes, as a part of a message. -/
def quote (t : Text) : String := String.ofList (quoted t)

end TaggedCorpus.Text

/-! ### Bytes -/

namespace TaggedCorpus

/-- How a byte is written between quotes. -/
def escapeByte (quote : Char) (b : UInt8) : Text :=
  let c := Char.ofNat b.toNat
  if b < 0x80 then Text.escape quote c else '\\' :: 'x' :: Text.hex 2 b.toNat

/-- Bytes in quotes behind the letter b. -/
def quoteBytes (bytes : List UInt8) : String :=
  let mark := Text.quoteMark (bytes.map fun b => Char.ofNat b.toNat)
  String.ofList ('b' :: mark :: bytes.flatMap (escapeByte mark) ++ [mark])

end TaggedCorpus
