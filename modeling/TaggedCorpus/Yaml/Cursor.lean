import TaggedCorpus.Text.Basic

/-!
A place in a YAML text, and the classes of characters found there.

The text comes with its line breaks written as line feeds; three other characters break lines
as well.
-/

namespace TaggedCorpus.Yaml

/-- What is still to be read, and the number of the next character, its line and its column. -/
structure Cursor where
  rest : Text
  index : Nat := 0
  line : Nat := 0
  column : Nat := 0

def isBreak (c : Char) : Bool :=
  c == '\n' || c == '\r' || c == '\u0085' || c == '\u2028' || c == '\u2029'

/-- Whether a character may stand in a YAML text at all. -/
def isAllowed (c : Char) : Bool :=
  let n := c.toNat
  n == 0x09 || n == 0x0A || n == 0x0D || (0x20 ≤ n && n ≤ 0x7E) || n == 0x85 ||
    (0xA0 ≤ n && n ≤ 0xD7FF) || (0xE000 ≤ n && n ≤ 0xFFFD) || 0x10000 ≤ n

/-- The end of the text or a line. -/
def endsLine (c : Option Char) : Bool := c.all isBreak

/-- The end of the text or a line, or a space. -/
def endsWord (c : Option Char) : Bool := c.all fun c => c == ' ' || isBreak c

/-- The end of the text or a line, a space or a tab. -/
def endsIndicator (c : Option Char) : Bool := c.all fun c => c == ' ' || c == '\t' || isBreak c

/-- A line break as a scalar keeps it. -/
def keptBreak (c : Char) : Char := if c == '\u2028' || c == '\u2029' then c else '\n'

namespace Cursor

def peek (c : Cursor) : Option Char := c.rest.head?

def peekAt (c : Cursor) (n : Nat) : Option Char := c.rest[n]?

/-- The place after the next character. A byte order mark takes no column. -/
def next (c : Cursor) : Cursor :=
  match c.rest with
  | [] => c
  | x :: rest =>
    if isBreak x then ⟨rest, c.index + 1, c.line + 1, 0⟩
    else ⟨rest, c.index + 1, c.line, if x == '\ufeff' then c.column else c.column + 1⟩

def skip : (n : Nat) → Cursor → Cursor
  | 0, c => c
  | n + 1, c => skip n c.next

/-- The place after the characters of a class that come next, and those characters. -/
def takeWhile (p : Char → Bool) (c : Cursor) : Text × Cursor :=
  let taken := c.rest.takeWhile p
  (taken, c.skip taken.length)

def skipWhile (p : Char → Bool) (c : Cursor) : Cursor := (c.takeWhile p).2

/-- The line break that comes next, as a scalar keeps it. -/
def takeBreak? (c : Cursor) : Option (Char × Cursor) :=
  match c.peek with
  | some x => if isBreak x then some (keptBreak x, c.next) else none
  | none => none

/-- Whether a line that parts documents begins here: three hyphens or points. -/
def atSeparator (c : Cursor) : Bool :=
  let mark := c.rest.take 3
  (mark == ['-', '-', '-'] || mark == ['.', '.', '.']) && endsIndicator (c.peekAt 3)

/-- The place of the next token, after spaces, comments and line breaks, and whether a line break
was passed. -/
def skipGaps : (fuel : Nat) → Cursor → Bool → Cursor × Bool
  | 0, c, passed => (c, passed)
  | fuel + 1, c, passed =>
    let c := c.skipWhile (· == ' ')
    let c := if c.peek == some '#' then c.skipWhile fun x => !isBreak x else c
    match c.takeBreak? with
    | some (_, c) => skipGaps fuel c true
    | none => (c, passed)

end Cursor

end TaggedCorpus.Yaml
