import TaggedCorpus.Text.Basic

/-!
Bytes written as letters that stand for six bits each.

Four letters make three bytes. A group that is not complete is padded with equals signs, after
which nothing is read. Characters that stand for nothing are passed over.
-/

namespace TaggedCorpus.Base64

/-- The six bits that a letter stands for. -/
def bits? (c : Char) : Option Nat :=
  let n := c.toNat
  if 'A' ≤ c && c ≤ 'Z' then some (n - 'A'.toNat)
  else if 'a' ≤ c && c ≤ 'z' then some (n - 'a'.toNat + 26)
  else if '0' ≤ c && c ≤ '9' then some (n - '0'.toNat + 52)
  else if c == '+' then some 62
  else if c == '/' then some 63
  else none

/-- The byte that is complete once a letter joins the letter before it; `place` counts the letters
of the group before it. -/
def byte (place before bits : Nat) : List UInt8 :=
  match place with
  | 1 => [UInt8.ofNat (before * 4 + bits / 16)]
  | 2 => [UInt8.ofNat (before % 16 * 16 + bits / 4)]
  | 3 => [UInt8.ofNat (before % 4 * 64 + bits)]
  | _ => []

/-- Decodes letters after `place` letters of a group, the last of which has the bits `before`, and
after so many signs of padding. An incomplete group fails. -/
def decodeFrom (place before padding : Nat) : Text → Option (List UInt8)
  | [] => if place == 0 then some [] else none
  | c :: rest =>
    if c == '=' then
      if 2 ≤ place && 4 ≤ place + padding + 1 then some []
      else decodeFrom place before (if 2 ≤ place then padding + 1 else padding) rest
    else match bits? c with
      | none => decodeFrom place before padding rest
      | some bits =>
        (decodeFrom ((place + 1) % 4) bits 0 rest).map (byte place before bits ++ ·)

def decode (t : Text) : Option (List UInt8) := decodeFrom 0 0 0 t

end TaggedCorpus.Base64
