/-!
Texts as sequences of code points, and how they are cut into words.

The words of a text are the non-empty pieces it falls into when it is cut at every blank. Decimal
digits are the characters with the general category Nd, by Unicode 14.
-/

namespace TaggedCorpus

/-- A text is the sequence of its code points; lengths, offsets and slices count them. Lone
surrogates, which are code points but no characters, are left out. -/
abbrev Text := List Char

namespace Text

/-- The characters with the property White_Space. -/
def isWhiteSpace (c : Char) : Bool :=
  let n := c.toNat
  (0x09 ≤ n && n ≤ 0x0D) || n == 0x20 || n == 0x85 || n == 0xA0 || n == 0x1680 ||
    (0x2000 ≤ n && n ≤ 0x200A) || n == 0x2028 || n == 0x2029 || n == 0x202F || n == 0x205F ||
    n == 0x3000

/-- The four information separators, which part words although they are not white space. -/
def isInformationSeparator (c : Char) : Bool :=
  0x1C ≤ c.toNat && c.toNat ≤ 0x1F

/-- The characters that part words. -/
def isBlank (c : Char) : Bool := isWhiteSpace c || isInformationSeparator c

/-- Whether a line has no word on it. -/
def isBlankLine (t : Text) : Bool := t.all isBlank

/-- The words of a line: its longest stretches without a blank. -/
def words (t : Text) : List Text := (t.splitOnP isBlank).filter fun w => !w.isEmpty

@[simp] theorem words_nil : words [] = [] := by simp [words]

/-- A blank parts the words before it from the words after it. -/
theorem words_append_cons (s : Text) {c : Char} (hc : isBlank c = true) (t : Text) :
    words (s ++ c :: t) = words s ++ words t := by
  simp [words, List.splitOnP_append_cons s t hc]

/-- The words put one after the other with a space between neighbours. -/
def unwords (ws : List Text) : Text := List.intercalate [' '] ws

/-- A text without the characters of a class at its end. -/
def dropEndWhile (p : Char → Bool) (t : Text) : Text := (t.reverse.dropWhile p).reverse

/-- A text without the characters of a class at its two ends. -/
def trimWhere (p : Char → Bool) (t : Text) : Text := dropEndWhile p (t.dropWhile p)

/-- The part of a text from one offset up to another; both are clamped to its end. -/
def slice (t : Text) (start stop : Nat) : Text := (t.take stop).drop start

/-! ### Decimal digits -/

/-- The zeros of all scripts; the nine code points after each are the other digits of its script. -/
def zeros : List Nat := [
  0x30, 0x660, 0x6F0, 0x7C0, 0x966, 0x9E6, 0xA66, 0xAE6, 0xB66, 0xBE6, 0xC66, 0xCE6, 0xD66, 0xDE6,
  0xE50, 0xED0, 0xF20, 0x1040, 0x1090, 0x17E0, 0x1810, 0x1946, 0x19D0, 0x1A80, 0x1A90, 0x1B50,
  0x1BB0, 0x1C40, 0x1C50, 0xA620, 0xA8D0, 0xA900, 0xA9D0, 0xA9F0, 0xAA50, 0xABF0, 0xFF10, 0x104A0,
  0x10D30, 0x11066, 0x110F0, 0x11136, 0x111D0, 0x112F0, 0x11450, 0x114D0, 0x11650, 0x116C0,
  0x11730, 0x118E0, 0x11950, 0x11C50, 0x11D50, 0x11DA0, 0x16A60, 0x16AC0, 0x16B50, 0x1D7CE,
  0x1D7D8, 0x1D7E2, 0x1D7EC, 0x1D7F6, 0x1E140, 0x1E2F0, 0x1E950, 0x1FBF0]

/-- The value of a decimal digit. -/
def decimalValue? (c : Char) : Option Nat :=
  (zeros.find? fun first => first ≤ c.toNat && c.toNat ≤ first + 9).map (c.toNat - ·)

end Text

end TaggedCorpus
