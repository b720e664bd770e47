import TaggedCorpus.Encoding.MultiByte
import TaggedCorpus.Encoding.Table.CodePage932
import TaggedCorpus.Encoding.Table.JisX0208
import TaggedCorpus.Encoding.Table.JisX0212
import TaggedCorpus.Encoding.Table.JisX0213

/-!
Encodings of Japanese: the sets of the standards in two arrangements of bytes, one of which leaves
room for narrow characters of one byte.
-/

namespace TaggedCorpus.Japanese

open CharacterSet MultiByte

/-! ### Character sets -/

/-- A character of JIS X 0201 in the upper half, which are narrow syllables. -/
def narrow? (n : Nat) : Option Char :=
  if 0xA1 ≤ n && n ≤ 0xDF then some (Char.ofNat (0xFF61 + (n - 0xA1))) else none

/-- A character of JIS X 0201 in the lower half, which has two signs of its own. -/
def roman (n : Nat) : Char :=
  if n == 0x5C then '¥' else if n == 0x7E then '‾' else Char.ofNat n

/-- The edition of JIS X 0213. -/
inductive Edition
  | first
  | second
  deriving DecidableEq

/-- Whether the bytes tell a cell of the first plane that the edition leaves free and a later one
fills. -/
def isLater (e : Edition) (a b : Nat) : Bool :=
  e == .first && jisX0213Later.contains (a - 0x20, b - 0x20)

/-- The text in a cell of the first plane, by the bytes that tell it. -/
def firstPlane? (e : Edition) (a b : Nat) : Option Text :=
  let (row, cell) := (a - 0x20, b - 0x20)
  if isLater e a b then none
  else match jisX0213Pairs.find? fun (r, c, _) => r == row && c == cell with
    | some (_, _, pair) => some pair.toList
    | none => ((jisX0208.ofBytes? a b).or (Runs.find? jisX0213First row cell)).map ([·])

/-- The character in a cell of the second plane, one of which has changed. -/
def secondPlane? (e : Edition) (a b : Nat) : Option Char :=
  if e == .first && a == 0x7D && b == 0x3B then some '鬝' else jisX0213Second.ofBytes? a b

/-! ### Bytes with the highest bit set -/

/-- How many bytes are at fault in a pair that stands for no text: both if the edition leaves their
cell free, or the first alone. -/
def pairFault (e : Edition) (a b : Nat) : Nat := if isLater e a b then 2 else 1

/-- A character of three bytes, or a narrow one of two, or one of two bytes. -/
def euc (three? : Nat → Nat → Option Char) (two? : Nat → Nat → Option Text)
    (faultLength : Nat → Nat → Nat) : Step Unit :=
  fun _ a rest =>
    if a.toNat < 0x80 then .text [Char.ofNat a.toNat] 1 ()
    else match rest with
      | [] => .cutOff
      | b :: more =>
        if a == 0x8E then .ofChar? (narrow? b.toNat) 2 1 ()
        else if a == 0x8F then
          match more with
          | [] => .cutOff
          | c :: _ => .ofChar? (three? (b.toNat - 0x80) (c.toNat - 0x80)) 3 1 ()
        else match two? (a.toNat - 0x80) (b.toNat - 0x80) with
          | some t => .text t 2 ()
          | none => .fault (faultLength (a.toNat - 0x80) (b.toNat - 0x80))

def eucJp : Step Unit :=
  euc jisX0212.ofBytes? (fun a b => (jisX0208.ofBytes? a b).map ([·])) fun _ _ => 1

def eucJisX0213 (e : Edition) : Step Unit :=
  euc (fun a b => (secondPlane? e a b).or (jisX0212.ofBytes? a b)) (firstPlane? e) (pairFault e)

/-! ### Bytes around the narrow characters -/

/-- The row and the cell, counted from zero, that two bytes tell. Two rows share a first byte. -/
def shifted? (a b : Nat) : Option (Nat × Nat) :=
  if b < 0x40 || b == 0x7F || 0xFC < b then none
  else
    let lead := if a < 0xE0 then a - 0x81 else a - 0xC1
    let cell := if b < 0x80 then b - 0x40 else b - 0x41
    if cell < 94 then some (2 * lead, cell) else some (2 * lead + 1, cell - 94)

/-- Characters of one byte, and of two bytes by their row and cell. The first of two bytes is at
most `last`. -/
def shifting (last : Nat) (single : Nat → Char) (two? : Nat → Nat → Option Text)
    (faultLength : Nat → Nat → Nat) : Step Unit := fun _ a rest =>
  let n := a.toNat
  if n < 0x80 then .text [single n] 1 ()
  else if (0x81 ≤ n && n ≤ 0x9F) || (0xE0 ≤ n && n ≤ last) then
    match rest with
    | [] => .cutOff
    | b :: _ => match shifted? n b.toNat with
      | none => .fault 1
      | some (row, cell) => match two? row cell with
        | some t => .text t 2 ()
        | none => .fault (faultLength row cell)
  else .ofChar? (narrow? n) 1 1 ()

def shiftJis : Step Unit :=
  shifting 0xEA Char.ofNat (fun row cell => (jisX0208.find? (row + 1) cell).map ([·])) fun _ _ => 1

/-- The row of the second plane after this many rows of both planes. -/
def secondPlaneRow (row : Nat) : Nat :=
  if 0x67 ≤ row then row + 7 - 0x20
  else if 0x63 ≤ row || row == 0x5F then row - 0x37 - 0x20
  else row - 0x3D - 0x20

/-- The text in a row and cell of both planes. Two signs of the first plane are narrow. -/
def bothPlanes? (e : Edition) (row cell : Nat) : Option Text :=
  if row == 0 && cell == 31 then some ['\\']
  else if row == 1 && cell == 17 then some ['~']
  else if row < 94 then firstPlane? e (row + 0x21) (cell + 0x21)
  else (secondPlane? e (secondPlaneRow row + 0x20) (cell + 0x21)).map ([·])

def shiftJisX0213 (e : Edition) : Step Unit :=
  shifting 0xFC roman (bothPlanes? e) fun row cell =>
    if row < 94 then pairFault e (row + 0x21) (cell + 0x21) else 1

/-! ### Code page 932 -/

/-- A character of one byte. -/
def codePage932Single? (n : Nat) : Option Char :=
  if n ≤ 0x80 then some (Char.ofNat n)
  else if n == 0xA0 then some '\uf8f0'
  else if 0xFD ≤ n then some (Char.ofNat (0xF8F1 + (n - 0xFD)))
  else narrow? n

/-- A character of two bytes. Ten leads are for private use. -/
def codePage932Pair? (a b : Nat) : Option Char :=
  (Runs.find? codePage932More a b).or do
    let (row, cell) ← shifted? a b
    if 0xF0 ≤ a && a ≤ 0xF9 then
      some (Char.ofNat (0xE000 + 188 * (a - 0xF0) + (if b < 0x80 then b - 0x40 else b - 0x41)))
    else if a ≤ 0xEA then jisX0208.find? (row + 1) cell
    else none

def codePage932 : Step Unit := fun _ a rest =>
  match codePage932Single? a.toNat, rest with
  | some c, _ => .text [c] 1 ()
  | none, [] => .cutOff
  | none, b :: _ => .ofChar? (codePage932Pair? a.toNat b.toNat) 2 1 ()

end TaggedCorpus.Japanese
