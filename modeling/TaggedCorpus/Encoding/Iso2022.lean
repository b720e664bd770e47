import TaggedCorpus.Encoding.CodePage
import TaggedCorpus.Encoding.Japanese
import TaggedCorpus.Encoding.Table.Gb2312
import TaggedCorpus.Encoding.Table.KsX1001

/-!
ISO 2022 and the encodings made from it: seven-bit bytes that stand for characters of the set
chosen by an escape sequence before them.

Up to three sets are chosen at a time: one for plain bytes, one for bytes that are shifted out, and
one for single characters after an escape. The encodings differ in the sets that may be chosen.
-/

namespace TaggedCorpus.Iso2022

open CharacterSet MultiByte
open Japanese (Edition)

/-- The sets that can be chosen. -/
inductive Charset
  | ascii
  | latin1
  | greek
  | narrow
  | roman
  | jisX0208
  | jisX0208Old
  | jisX0212
  | firstPlane (e : Edition)
  | secondPlane (e : Edition)
  | gb2312
  | ksX1001
  deriving DecidableEq

namespace Charset

/-- The last byte of the escape sequence that chooses a set, and whether it has two bytes for each
character. -/
def mark : Charset → Char × Bool
  | ascii => ('B', false)
  | latin1 => ('A', false)
  | greek => ('F', false)
  | narrow => ('I', false)
  | roman => ('J', false)
  | gb2312 => ('A', true)
  | jisX0208 => ('B', true)
  | ksX1001 => ('C', true)
  | jisX0212 => ('D', true)
  | firstPlane .first => ('O', true)
  | firstPlane .second => ('Q', true)
  | secondPlane _ => ('P', true)
  | jisX0208Old => ('@', true)

/-- The text that one or two bytes stand for. -/
def text? (s : Charset) (a b : Nat) : Option Text :=
  match s with
  | ascii => some [Char.ofNat a]
  | latin1 | greek => none
  | narrow => (Japanese.narrow? (a + 0x80)).map ([·])
  | roman => some [Japanese.roman a]
  | jisX0208 | jisX0208Old => (CharacterSet.jisX0208.ofBytes? a b).map ([·])
  | jisX0212 => (CharacterSet.jisX0212.ofBytes? a b).map ([·])
  | firstPlane e => Japanese.firstPlane? e a b
  | secondPlane e => (Japanese.secondPlane? e a b).map ([·])
  | gb2312 => (CharacterSet.gb2312.ofBytes? a b).map ([·])
  | ksX1001 => (CharacterSet.ksX1001.ofBytes? a b).map ([·])

/-- The character that a byte stands for when it comes singly after an escape. -/
def single? (s : Charset) (n : Nat) : Option Char :=
  match s with
  | ascii => if n < 0x80 then some (Char.ofNat n) else none
  | latin1 => if n < 0x80 then some (Char.ofNat (n + 0x80)) else none
  | greek =>
    if 0x80 ≤ n then some (Char.ofNat (n - 0x80))
    else if n == 0x24 || n == 0x25 || n == 0x2A then none
    else CodePage.charOf? CodePage.iso8859_7.last (UInt8.ofNat (n + 0x80))
  | _ => none

end Charset

/-- What an encoding allows: the sets apart from ASCII, shifting, and the choice of a set for single
characters. -/
structure Variant where
  codecName : String
  sets : List Charset
  shifts : Bool := false
  singles : Bool := false

namespace Variant

def kr : Variant where
  codecName := "iso2022_kr"
  sets := [.ksX1001]
  shifts := true

def jp : Variant where
  codecName := "iso2022_jp"
  sets := [.jisX0208, .roman, .jisX0208Old]

def jp1 : Variant where
  codecName := "iso2022_jp_1"
  sets := [.jisX0208, .jisX0212, .roman, .jisX0208Old]

def jp2 : Variant where
  codecName := "iso2022_jp_2"
  sets := [.jisX0208, .jisX0212, .ksX1001, .gb2312, .roman, .jisX0208Old, .latin1, .greek]
  singles := true

def jp3 : Variant where
  codecName := "iso2022_jp_3"
  sets := [.jisX0208, .firstPlane .first, .secondPlane .first]

def jp2004 : Variant where
  codecName := "iso2022_jp_2004"
  sets := [.jisX0208, .firstPlane .second, .secondPlane .second]

def jpExt : Variant where
  codecName := "iso2022_jp_ext"
  sets := [.jisX0208, .jisX0212, .roman, .narrow, .jisX0208Old]

end Variant

/-- The sets that are chosen, whether bytes are shifted out, and whether an escape sequence of
another kind goes on. -/
structure State where
  plain : Charset := .ascii
  shifted : Charset := .ascii
  single : Charset := .ascii
  isShifted : Bool := false
  passing : Bool := false

/-- Which of the three sets a sequence chooses. -/
inductive Place
  | plain
  | shifted
  | single

def State.choose (s : State) (place : Place) (set : Charset) : State :=
  match place with
  | .plain => { s with plain := set }
  | .shifted => { s with shifted := set }
  | .single => { s with single := set }

/-- Whether a byte ends an escape sequence. -/
def endsEscape (c : Char) : Bool := ('A' ≤ c && c ≤ 'Z') || c == '@'

/-- The longest escape sequence. -/
def maxEscape : Nat := 16

/-- How far an escape sequence goes. -/
inductive Extent
  | ends (length : Nat)
  | cutOff
  | tooLong
  deriving DecidableEq

/-- How far an escape sequence goes, whose characters after the first `read` are given. An
announcement in front of a sequence is a part of it. -/
def extent (announced : Bool) : (fuel read : Nat) → Text → Extent
  | 0, _, _ => .tooLong
  | fuel + 1, read, t =>
    if maxEscape ≤ read then .tooLong
    else match t with
      | [] => .cutOff
      | '&' :: '@' :: _ =>
        if announced then extent announced fuel (read + 3) (t.drop 3) else .ends (read + 2)
      | c :: rest =>
        if endsEscape c then .ends (read + 1) else extent announced fuel (read + 1) rest

/-- The set that an escape sequence chooses, by its characters after the first one, and for
what. A sequence may have another one in front, of which only the length counts. -/
def chosen? (v : Variant) (sequence : Text) : Option (Place × Char × Bool) :=
  match sequence with
  | ['$', c] => some (.plain, c, true)
  | ['(', c] => some (.plain, c, false)
  | [')', c] => some (.shifted, c, false)
  | ['.', c] => if v.singles then some (.single, c, false) else none
  | ['$', '(', c] => some (.plain, c, true)
  | ['$', ')', c] => some (.shifted, c, true)
  | [_, _, '\x1b', '$', 'B'] => if v.shifts then none else some (.plain, 'B', true)
  | _ => none

/-- Reads an escape sequence, of which the first character has been read. -/
def escape (v : Variant) (s : State) (rest : List UInt8) : Outcome State :=
  let t := rest.map fun b => Char.ofNat b.toNat
  match extent (!v.shifts) (maxEscape + 1) 1 t with
  | .cutOff => .cutOff
  | .tooLong => .fault 1
  | .ends length =>
    let set? := (chosen? v (t.take (length - 1))).bind fun (place, c, double) =>
      ((Charset.ascii :: v.sets).find? fun set => set.mark == (c, double)).map (place, ·)
    match set? with
    | some (place, set) => .text [] length (s.choose place set)
    | none => .fault length

/-- A character of the set for plain or shifted bytes. -/
def character (s : State) (a : UInt8) (rest : List UInt8) : Outcome State :=
  let set := if s.isShifted then s.shifted else s.plain
  if set.mark.2 then
    match rest with
    | [] => .cutOff
    | b :: _ => match set.text? a.toNat b.toNat with
      | some t => .text t 2 s
      | none => .fault 2
  else match set.text? a.toNat 0 with
    | some t => .text t 1 s
    | none => .fault 1

def step (v : Variant) : Step State := fun s a rest =>
  let c := Char.ofNat a.toNat
  if s.passing then .text [c] 1 { s with passing := !endsEscape c }
  else if c == '\x1b' then
    match rest with
    | [] => .cutOff
    | b :: more =>
      if "()$.&".toList.contains (Char.ofNat b.toNat) then escape v s rest
      else if v.singles && b == 0x4E then
        match more with
        | [] => .cutOff
        | d :: _ => .ofChar? (s.single.single? d.toNat) 3 3 s
      else .text [c] 1 { s with passing := true }
  else if v.shifts && c == '\x0f' then .text [] 1 { s with isShifted := false }
  else if v.shifts && c == '\x0e' then .text [] 1 { s with isShifted := true }
  else if c == '\n' then .text [c] 1 { s with isShifted := false }
  else if a.toNat < 0x20 then .text [c] 1 s
  else if 0x80 ≤ a.toNat then .fault 1
  else character s a rest

def codec (v : Variant) : Codec (State × Waiting) := MultiByte.codec v.codecName (step v) {}

end TaggedCorpus.Iso2022
