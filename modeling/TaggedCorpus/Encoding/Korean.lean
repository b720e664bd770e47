import TaggedCorpus.Encoding.MultiByte
import TaggedCorpus.Encoding.Table.KsX1001

/-!
Encodings of Korean: KS X 1001, and all syllables besides those that it has.

A syllable is made of an initial, a vowel and perhaps a final.
-/

namespace TaggedCorpus.Korean

open CharacterSet MultiByte

def initials : List Char := "ㄱㄲㄴㄷㄸㄹㅁㅂㅃㅅㅆㅇㅈㅉㅊㅋㅌㅍㅎ".toList

def vowels : List Char := "ㅏㅐㅑㅒㅓㅔㅕㅖㅗㅘㅙㅚㅛㅜㅝㅞㅟㅠㅡㅢㅣ".toList

def finals : List Char := "ㄱㄲㄳㄴㄵㄶㄷㄹㄺㄻㄼㄽㄾㄿㅀㅁㅂㅄㅅㅆㅇㅈㅊㅋㅌㅍㅎ".toList

/-- The syllable of an initial, a vowel and a final by their numbers; zero is no final. -/
def syllable (initial vowel final : Nat) : Char :=
  Char.ofNat (0xAC00 + (initial * 21 + vowel) * 28 + final)

/-! ### KS X 1001 -/

/-- The letter that fills the place of a missing one. -/
def filler : Char := '\u3164'

/-- The number of a letter among some. -/
def number? (letters : List Char) (c : Char) : Option Nat :=
  if letters.contains c then some (letters.idxOf c) else none

/-- The syllable that is spelled out by the letters in these cells. -/
def spelled? (initial vowel final : UInt8) : Option Char := do
  let letter? (b : UInt8) := pairOf ksX1001 0xA4 b.toNat
  let i ← number? initials (← letter? initial)
  let v ← number? vowels (← letter? vowel)
  let last ← letter? final
  let f ← if last == filler then some 0 else (number? finals last).map (· + 1)
  some (syllable i v f)

/-- A filler begins a syllable that is spelled out. -/
def eucKr : Step Unit := fun _ a rest =>
  match a, rest with
  | 0xA4, 0xD4 :: more => match more with
    | l1 :: initial :: l2 :: vowel :: l3 :: final :: _ =>
      if l1 == 0xA4 && l2 == 0xA4 && l3 == 0xA4 then .ofChar? (spelled? initial vowel final) 8 1 ()
      else .fault 1
    | _ => .cutOff
  | a, rest => doubleByte (pairOf ksX1001) () a rest

/-! ### All syllables -/

/-- The code points of the syllables that KS X 1001 has, in order. -/
def taken : List Nat :=
  ((ksX1001.rows.toList.drop 15).take 25).flatMap fun r => r.toList.map Char.toNat

/-- How many syllables there are besides those. -/
def addedCount : Nat := 8822

/-- The place of a cell among those for the other syllables. They fill one area with 178 cells in
a row, and after it one with 84. -/
def addedPlace? (a b : Nat) : Option Nat := do
  let cell ←
    if 0x41 ≤ b && b ≤ 0x5A then some (b - 0x41)
    else if 0x61 ≤ b && b ≤ 0x7A then some (b - 0x61 + 26)
    else if 0x81 ≤ b && b ≤ 0xFE then some (b - 0x81 + 52)
    else none
  if 0x81 ≤ a && a ≤ 0xA0 then some ((a - 0x81) * 178 + cell)
  else if 0xA1 ≤ a && a ≤ 0xC6 && cell < 84 then some (32 * 178 + (a - 0xA1) * 84 + cell)
  else none

/-- The other syllables are in the order of their code points. -/
def added? (a b : Nat) : Option Char := do
  let place ← addedPlace? a b
  if place < addedCount then some (Char.ofNat (nthFree taken (0xAC00 + place))) else none

def codePage949Pair? (a b : Nat) : Option Char := (pairOf ksX1001 a b).or (added? a b)

/-! ### Syllables by their letters -/

/-- What five bits stand for: a letter by its number, or none. -/
inductive Letter
  | number (n : Nat)
  | missing

def initialOf? (bits : Nat) : Option Letter :=
  if bits == 1 then some .missing
  else if 2 ≤ bits && bits ≤ 20 then some (.number (bits - 2))
  else none

def vowelOf? (bits : Nat) : Option Letter :=
  if bits == 2 then some .missing
  else if 3 ≤ bits && bits ≤ 7 then some (.number (bits - 3))
  else if 10 ≤ bits && bits ≤ 15 then some (.number (bits - 5))
  else if 18 ≤ bits && bits ≤ 23 then some (.number (bits - 7))
  else if 26 ≤ bits && bits ≤ 29 then some (.number (bits - 9))
  else none

def finalOf? (bits : Nat) : Option Letter :=
  if bits == 1 then some .missing
  else if 2 ≤ bits && bits ≤ 17 then some (.number (bits - 1))
  else if 19 ≤ bits && bits ≤ 29 then some (.number (bits - 2))
  else none

/-- The syllable or single letter of three letters of five bits each. -/
def composed? (n : Nat) : Option Char := do
  match ← initialOf? (n / 1024 % 32), ← vowelOf? (n / 32 % 32), ← finalOf? (n % 32) with
  | .missing, .missing, .missing => some '\u3000'
  | .missing, .missing, .number f => finals[f - 1]?
  | .missing, .number v, .missing => vowels[v]?
  | .number i, .missing, .missing => initials[i]?
  | .number i, .number v, .missing => some (syllable i v 0)
  | .number i, .number v, .number f => some (syllable i v f)
  | _, _, _ => none

/-- Whether two bytes tell a cell of KS X 1001 that is no syllable or letter. -/
def tellsCell (a b : Nat) : Bool :=
  0xD9 ≤ a && a != 0xDF && a ≤ 0xF9 && 0x31 ≤ b && !(0x80 ≤ b && b < 0x91) && b % 0x80 != 0x7F &&
    !(a == 0xDA && 0xA1 ≤ b && b ≤ 0xD3)

/-- The character in two bytes. Two rows of KS X 1001 share a first byte. -/
def johabPair? (a b : Nat) : Option Char :=
  if a < 0xD8 then composed? (a * 256 + b)
  else if tellsCell a b then
    let row := if a < 0xE0 then 2 * (a - 0xD9) else 2 * a - 0x197
    let cell := if b < 0x91 then b - 0x31 else b - 0x43
    if cell < 94 then ksX1001.ofBytes? (row + 0x21) (cell + 0x21)
    else ksX1001.ofBytes? (row + 0x22) (cell - 94 + 0x21)
  else none

end TaggedCorpus.Korean
