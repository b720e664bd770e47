import TaggedCorpus.Encoding.Codec

/-!
Latin-1 in which backslashes begin escapes of characters.

In one form escapes stand for code points only. In the other one they also stand for control
characters and quotes, and a line feed after a backslash is not a part of the text. A backslash
that begins no escape stands for itself.
-/

namespace TaggedCorpus.Escape

/-- The two forms. -/
inductive Form
  | codePoints
  | all
  deriving DecidableEq

/-- The codec as messages call it. -/
def Form.codecName : Form → String
  | .codePoints => "rawunicodeescape"
  | .all => "unicodeescape"

/-- What a backslash and what follows it come to: a text after so many bytes, an escape that is cut
off and comes to a problem or to a text if nothing follows, or one that is wrong within so many
bytes. -/
inductive Outcome
  | text (t : Text) (read : Nat)
  | cutOff (atEnd : Except ByteProblem Text)
  | fault (problem : ByteProblem) (read : Nat)

def hexValue? (b : UInt8) : Option Nat :=
  let n := b.toNat
  if 0x30 ≤ n && n ≤ 0x39 then some (n - 0x30)
  else if 0x61 ≤ n && n ≤ 0x66 then some (n - 0x61 + 10)
  else if 0x41 ≤ n && n ≤ 0x46 then some (n - 0x41 + 10)
  else none

/-- The character with a number. A surrogate is none; the replacement character stands for it. -/
def character (n : Nat) : Char := if n.isValidChar then Char.ofNat n else '\ufffd'

/-- An escape of a code point: so many hexadecimal digits after a backslash and a letter. -/
def codePoint (shape : String) (digits : Nat) (outOfRange : ByteProblem) (rest : List UInt8) :
    Outcome :=
  let found := (rest.take digits).takeWhile fun b => (hexValue? b).isSome
  let n := found.foldl (fun n b => n * 16 + (hexValue? b).getD 0) 0
  if found.length == digits then
    if n ≤ 0x10FFFF then .text [character n] (2 + digits)
    else .fault outOfRange (2 + digits)
  else if found.length == rest.length then .cutOff (.error (.truncatedEscape shape))
  else .fault (.truncatedEscape shape) (2 + found.length)

/-- Up to three octal digits. -/
def octal (rest : List UInt8) : Outcome :=
  let found := (rest.take 3).takeWhile fun b => 0x30 ≤ b.toNat && b.toNat ≤ 0x37
  .text [Char.ofNat (found.foldl (fun n b => n * 8 + (b.toNat - 0x30)) 0)] (1 + found.length)

/-- A character by its name within braces. No name is known. -/
def named (rest : List UInt8) : Outcome :=
  match rest with
  | [] => .cutOff (.error .malformedName)
  | 0x7B :: rest =>
    let name := rest.takeWhile (· != 0x7D)
    if name.length == rest.length then .cutOff (.error .malformedName)
    else if name.isEmpty then .fault .malformedName 3
    else .fault .unknownName (4 + name.length)
  | _ => .fault .malformedName 2

/-- What a backslash and these letters stand for. -/
def letters : List (Char × Char) := [
  ('\\', '\\'), ('\'', '\''), ('"', '"'), ('b', '\x08'), ('f', '\x0c'), ('n', '\n'), ('r', '\r'),
  ('t', '\t'), ('v', '\x0b'), ('a', '\x07')]

/-- What a backslash comes to before these bytes. -/
def escape (form : Form) : List UInt8 → Outcome
  | [] => match form with
    | .codePoints => .cutOff (.ok ['\\'])
    | .all => .cutOff (.error .trailingBackslash)
  | b :: rest =>
    let c := Char.ofNat b.toNat
    match form with
    | .codePoints =>
      if c == 'u' then codePoint "\\uXXXX" 4 .escapeOutOfRange rest
      else if c == 'U' then codePoint "\\UXXXXXXXX" 8 .escapeOutOfRange rest
      else .text ['\\', c] 2
    | .all =>
      if c == 'x' then codePoint "\\xXX" 2 .noSuchCharacter rest
      else if c == 'u' then codePoint "\\uXXXX" 4 .noSuchCharacter rest
      else if c == 'U' then codePoint "\\UXXXXXXXX" 8 .noSuchCharacter rest
      else if c == 'N' then named rest
      else if '0' ≤ c && c ≤ '7' then octal (b :: rest)
      else if c == '\n' then .text [] 2
      else match letters.lookup c with
        | some d => .text [d] 2
        | none => .text ['\\', c] 2

/-- Decodes bytes of which the first has this position. -/
def decodeFrom (form : Form) : (fuel position : Nat) → List UInt8 → Decoded
  | _, _, [] => .done
  | 0, _, _ => .done
  | fuel + 1, position, b :: rest =>
    if b != 0x5C then (decodeFrom form fuel (position + 1) rest).cons (Char.ofNat b.toNat)
    else match escape form rest with
      | .text t read =>
        (decodeFrom form fuel (position + read) (rest.drop (read - 1))).append t
      | .cutOff (.ok t) => ⟨[], .cutOff (1 + rest.length) ⟨t, .complete⟩⟩
      | .cutOff (.error problem) =>
        .cutOff (1 + rest.length) ⟨form.codecName, b, 0, 1 + rest.length, problem⟩
      | .fault problem read => .broken ⟨form.codecName, b, position, read, problem⟩

def decode (form : Form) (bytes : List UInt8) : Decoded := decodeFrom form bytes.length 0 bytes

def codec (form : Form) : Codec Waiting := .buffered (decode form)

end TaggedCorpus.Escape
