import TaggedCorpus.Encoding.MultiByte
import TaggedCorpus.Encoding.Table.Big5
import TaggedCorpus.Encoding.Table.BigHkscs
import TaggedCorpus.Encoding.Table.Gb2312
import TaggedCorpus.Encoding.Table.Gbk

/-!
Encodings of Chinese: GB 2312 and what it has grown to, and Big5 and its variants.
-/

namespace TaggedCorpus.Chinese

open CharacterSet MultiByte

/-! ### GB 2312, GBK and GB 18030 -/

def gb2312Pair? : Nat → Nat → Option Char := pairOf gb2312

/-- The code points of the ideographs that GB 2312 has, in order. -/
def taken : List Nat :=
  let all := (gb2312.rows.toList.drop 15).flatMap fun r => r.toList.map Char.toNat
  (all.filter (· != emptyCell.toNat)).mergeSort (· ≤ ·)

/-- How many ideographs GBK adds. -/
def addedCount : Nat := 14139

/-- The place of a cell among those for the added ideographs. They fill one area with 190 cells in
a row, and after it one with 96. -/
def addedPlace? (a b : Nat) : Option Nat :=
  let cell := if b < 0x7F then b - 0x40 else b - 0x41
  if b < 0x40 || b == 0x7F || 0xFE < b then none
  else if 0x81 ≤ a && a ≤ 0xA0 then some ((a - 0x81) * 190 + cell)
  else if 0xAA ≤ a && a ≤ 0xFE && b ≤ 0xA0 then some (32 * 190 + (a - 0xAA) * 96 + cell)
  else none

/-- The added ideographs are in the order of their code points. -/
def added? (a b : Nat) : Option Char := do
  let place ← addedPlace? a b
  if place < addedCount then some (Char.ofNat (nthFree taken (0x4E00 + place))) else none

def gbkPair? (a b : Nat) : Option Char :=
  (Runs.find? gbkMore a b).or ((gb2312Pair? a b).or (added? a b))

/-- The characters in two bytes that GB 18030 adds. -/
def gb18030Pair? (a b : Nat) : Option Char :=
  let more := gb18030More.findSome? fun (lead, first, point, count) =>
    if lead == a && first ≤ b && b < first + count then some (Char.ofNat (point + (b - first)))
    else none
  more.or (gbkPair? a b)

/-- The code point with a number among those that are written in four bytes. -/
def fourBytePoint (n : Nat) : Nat :=
  match (gb18030Four.takeWhile fun r => r.1 ≤ n).getLast? with
  | some (first, point) => point + (n - first)
  | none => n

/-- The character in four bytes, of which the second and the fourth are digits. -/
def fourBytes? (a b c d : Nat) : Option Char :=
  if a < 0x81 || 0xFE < a || c < 0x81 || 0xFE < c || d < 0x30 || 0x39 < d then none
  else
    let n (lead : Nat) := ((a - lead) * 10 + (b - 0x30)) * 1260 + (c - 0x81) * 10 + (d - 0x30)
    if a < 0x85 then
      if n 0x81 < 39420 then some (Char.ofNat (fourBytePoint (n 0x81))) else none
    else if 0x90 ≤ a && 0x10000 + n 0x90 ≤ 0x10FFFF then some (Char.ofNat (0x10000 + n 0x90))
    else none

def gb18030 : Step Unit := fun _ a rest =>
  match rest with
  | b :: more =>
    if 0x80 ≤ a.toNat && 0x30 ≤ b.toNat && b.toNat ≤ 0x39 then
      match more with
      | c :: d :: _ => .ofChar? (fourBytes? a.toNat b.toNat c.toNat d.toNat) 4 1 ()
      | _ => .cutOff
    else doubleByte gb18030Pair? () a rest
  | [] => doubleByte gb18030Pair? () a rest

/-- GB 2312 in ASCII: a tilde and a brace begin and end a stretch of characters in two bytes. It is
remembered whether one has begun. -/
def hz : Step Bool := fun inside a rest =>
  if a == 0x7E then
    match rest with
    | [] => .cutOff
    | b :: _ =>
      if b == 0x7E && !inside then .text ['~'] 2 inside
      else if b == 0x7B && !inside then .text [] 2 true
      else if b == 0x0A && !inside then .text [] 2 inside
      else if b == 0x7D && inside then .text [] 2 false
      else .fault 1
  else if 0x80 ≤ a.toNat then .fault 1
  else if inside then
    match rest with
    | [] => .cutOff
    | b :: _ => .ofChar? (gb2312.ofBytes? a.toNat b.toNat) 2 1 inside
  else .text [Char.ofNat a.toNat] 1 inside

/-! ### Big5 -/

/-- The character in a cell of a set that is kept in two halves. -/
def halved? (low high : CharacterSet) (a b : Nat) : Option Char :=
  if 0x40 ≤ b && b ≤ 0x7E then low.find? a (b - 0x40)
  else if 0xA1 ≤ b then high.find? a (b - 0xA1)
  else none

def big5Pair? : Nat → Nat → Option Char := halved? big5Low big5High

def codePage950Pair? (a b : Nat) : Option Char :=
  (Runs.find? codePage950More a b).or (big5Pair? a b)

/-- The text in a cell with the supplement of Hong Kong. -/
def hkscs? (a b : Nat) : Option Text :=
  match hkscsPairs.find? fun (row, cell, _) => row == a && cell == b with
  | some (_, _, pair) => some pair.toList
  | none =>
    let c? := (halved? hkscsLow hkscsHigh a b).or
      (if hkscsEmpty.contains (a, b) then none else big5Pair? a b)
    c?.map ([·])

def big5Hkscs : Step Unit := fun _ a rest =>
  if a.toNat < 0x80 then .text [Char.ofNat a.toNat] 1 ()
  else match rest with
    | [] => .cutOff
    | b :: _ => match hkscs? a.toNat b.toNat with
      | some t => .text t 2 ()
      | none => .fault 1

end TaggedCorpus.Chinese
