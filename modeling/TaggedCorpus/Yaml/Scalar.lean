import TaggedCorpus.Yaml.Cursor
import TaggedCorpus.Yaml.Fault

/-!
The four ways to write a scalar in YAML: plain, in single or double quotes, and as a block.

A line break within a scalar is folded into a space, and further ones are kept, except in a
literal block.
-/

namespace TaggedCorpus.Yaml

/-- A scalar, where it ends, and whether a new line has begun there. -/
structure Scanned where
  text : Text
  place : Cursor
  onNewLine : Bool := false

/-- What a line break and those that follow it come to within a scalar. -/
def fold (first : Char) (more : Text) : Text :=
  (if first != '\n' then [first] else if more.isEmpty then [' '] else []) ++ more

/-! ### Plain scalars -/

/-- The indicators that end a plain scalar within brackets. -/
def endsInBrackets (c : Char) : Bool := c == ',' || c == '?' || c == '[' || c == ']' ||
  c == '\x7b' || c == '\x7d'

/-- Whether a colon before this character ends a plain scalar. -/
def endsAfterColon (inBrackets : Bool) (c : Option Char) : Bool :=
  endsIndicator c ||
    (inBrackets && c.any fun c => c == ',' || c == '[' || c == ']' || c == '\x7b' || c == '\x7d')

/-- The characters that go on with a plain scalar up to a blank. -/
def plainRun (inBrackets : Bool) : Text → Text
  | [] => []
  | c :: rest =>
    if endsIndicator (some c) || (c == ':' && endsAfterColon inBrackets rest.head?) ||
        (inBrackets && endsInBrackets c) then []
    else c :: plainRun inBrackets rest

/-- The line breaks from here on, skipping spaces; none if documents are parted here. -/
def plainBreaks : (fuel : Nat) → Cursor → Option (Text × Cursor)
  | 0, c => some ([], c)
  | fuel + 1, c =>
    if c.atSeparator then none
    else
      let c := c.skipWhile (· == ' ')
      match c.takeBreak? with
      | none => some ([], c)
      | some (b, c) => (plainBreaks fuel c).map fun (bs, c) => (b :: bs, c)

/-- What the spaces and line breaks after a run of a plain scalar come to; nothing if the scalar
ends there. -/
def plainSpaces (c : Cursor) : Scanned :=
  let (spaces, c) := c.takeWhile (· == ' ')
  match c.takeBreak? with
  | none => ⟨spaces, c, false⟩
  | some (b, c) =>
    match plainBreaks c.rest.length c with
    | none => ⟨[], c, true⟩
    | some (bs, c) => ⟨fold b bs, c, true⟩

/-- A plain scalar; outside brackets, a line that starts left of `indent` does not go on with
it. -/
def plainFrom (indent : Int) (inBrackets : Bool) :
    (fuel : Nat) → (spaces : Text) → (onNewLine : Bool) → Cursor → Scanned
  | 0, _, onNewLine, c => ⟨[], c, onNewLine⟩
  | fuel + 1, spaces, onNewLine, c =>
    let run := if c.peek == some '#' then [] else plainRun inBrackets c.rest
    if run.isEmpty then ⟨[], c, onNewLine⟩
    else
      let gap := plainSpaces (c.skip run.length)
      let rest :=
        if gap.text.isEmpty || gap.place.peek == some '#' ||
            (!inBrackets && (gap.place.column : Int) < indent) then
          ⟨[], gap.place, gap.onNewLine⟩
        else plainFrom indent inBrackets fuel gap.text gap.onNewLine gap.place
      { rest with text := spaces ++ run ++ rest.text }

def plain (indent : Int) (inBrackets : Bool) (c : Cursor) : Scanned :=
  plainFrom indent inBrackets (c.rest.length + 1) [] false c

/-! ### Quoted scalars -/

/-- What a backslash and this letter stand for. -/
def escapes : List (Char × Char) := [
  ('0', '\x00'), ('a', '\x07'), ('b', '\x08'), ('t', '\t'), ('\t', '\t'), ('n', '\n'),
  ('v', '\x0b'), ('f', '\x0c'), ('r', '\r'), ('e', '\x1b'), (' ', ' '), ('"', '"'),
  ('\\', '\\'), ('/', '/'), ('N', '\u0085'), ('_', '\u00a0'), ('L', '\u2028'), ('P', '\u2029')]

/-- How many hexadecimal digits follow a backslash and this letter. -/
def escapeWidths : List (Char × Nat) := [('x', 2), ('u', 4), ('U', 8)]

def isHexDigit (c : Char) : Bool := (Number.digitValue? 16 c).isSome

/-- The character with a number. A surrogate is none; the replacement character stands for it. -/
def characterOf (n : Nat) : Except Fault Char :=
  if n.isValidChar then .ok (Char.ofNat n)
  else if n < 0x110000 then .ok '\ufffd'
  else if n < 0x80000000 then .error .pastLastCharacter
  else .error .pastAllNumbers

/-- The line breaks from here on, skipping spaces and tabs. No document may end within quotes. -/
def quotedBreaks : (fuel : Nat) → Cursor → Except Fault (Text × Cursor)
  | 0, c => .ok ([], c)
  | fuel + 1, c =>
    if c.atSeparator then .error .malformed
    else
      let c := c.skipWhile fun x => x == ' ' || x == '\t'
      match c.takeBreak? with
      | none => .ok ([], c)
      | some (b, c) => do
        let (bs, c) ← quotedBreaks fuel c
        return (b :: bs, c)

/-- What a backslash in double quotes comes to; the place is after the backslash. -/
def escaped (c : Cursor) : Except Fault (Text × Cursor) :=
  match c.takeBreak?, c.peek with
  | some (_, c), _ => quotedBreaks (c.rest.length + 1) c
  | none, none => .error .malformed
  | none, some x =>
    match escapes.lookup x, escapeWidths.lookup x with
    | some y, _ => .ok ([y], c.next)
    | none, none => .error .malformed
    | none, some width =>
      let digits := c.next.rest.take width
      if digits.length == width && digits.all isHexDigit then
        (characterOf (Number.ofDigits 16 digits)).map fun y => ([y], c.next.skip width)
      else .error .malformed

/-- The rest of a quoted scalar, after its opening quote. -/
def quotedFrom (double : Bool) : (fuel : Nat) → Cursor → Except Fault (Text × Cursor)
  | 0, _ => .error .malformed
  | fuel + 1, c =>
    match c.peek with
    | none => .error .malformed
    | some x =>
      if x == (if double then '"' else '\'') then
        if !double && c.peekAt 1 == some '\'' then do
          let (t, c) ← quotedFrom double fuel (c.skip 2)
          return ('\'' :: t, c)
        else .ok ([], c.next)
      else if double && x == '\\' then do
        let (s, c) ← escaped c.next
        let (t, c) ← quotedFrom double fuel c
        return (s ++ t, c)
      else if endsIndicator (some x) then do
        let (spaces, c) := c.takeWhile fun x => x == ' ' || x == '\t'
        match c.takeBreak? with
        | none =>
          let (t, c) ← quotedFrom double fuel c
          return (spaces ++ t, c)
        | some (b, c) =>
          let (bs, c) ← quotedBreaks (c.rest.length + 1) c
          let (t, c) ← quotedFrom double fuel c
          return (fold b bs ++ t, c)
      else do
        let (t, c) ← quotedFrom double fuel c.next
        return (x :: t, c)

def quotedScalar (double : Bool) (c : Cursor) : Except Fault (Text × Cursor) :=
  quotedFrom double (c.rest.length + 1) c.next

/-! ### Block scalars -/

/-- What happens to the line breaks at the end of a block. -/
inductive Chomping
  | clip
  | strip
  | keep
  deriving DecidableEq

/-- What the first line of a block says: the chomping, and the indentation if it is given. -/
def blockHeader (c : Cursor) : Except Fault (Chomping × Option Nat × Cursor) :=
  let chomping? : Option Char → Option Chomping
    | some '+' => some .keep
    | some '-' => some .strip
    | _ => none
  let digit? : Option Char → Option Nat
    | some x => if '0' ≤ x && x ≤ '9' then some (x.toNat - '0'.toNat) else none
    | none => none
  let (chomping, width, c) :=
    match chomping? c.peek, digit? c.peek with
    | some k, _ => match digit? c.next.peek with
      | some d => (k, some d, c.skip 2)
      | none => (k, none, c.next)
    | none, some d => match chomping? c.next.peek with
      | some k => (k, some d, c.skip 2)
      | none => (.clip, some d, c.next)
    | none, none => (.clip, none, c)
  if width == some 0 || !endsWord c.peek then .error .malformed
  else
    let c := c.skipWhile (· == ' ')
    let c := if c.peek == some '#' then c.skipWhile fun x => !isBreak x else c
    if endsLine c.peek then .ok (chomping, width, (c.takeBreak?.map (·.2)).getD c)
    else .error .malformed

/-- The empty lines before a block, and the widest column of their spaces or the first line's. -/
def blockIndent : (fuel : Nat) → Cursor → Nat → Text × Nat × Cursor
  | 0, c, widest => ([], widest, c)
  | fuel + 1, c, widest =>
    let c := c.skipWhile (· == ' ')
    let widest := max widest c.column
    match c.takeBreak? with
    | none => ([], widest, c)
    | some (b, c) =>
      let (bs, widest, c) := blockIndent fuel c widest
      (b :: bs, widest, c)

/-- The place after spaces up to a column. -/
def skipTo (column : Nat) (c : Cursor) : Cursor :=
  c.skip ((c.rest.take (column - c.column)).takeWhile (· == ' ')).length

/-- The empty lines before the next line of a block. -/
def blockBreaks (indent : Nat) : (fuel : Nat) → Cursor → Text × Cursor
  | 0, c => ([], skipTo indent c)
  | fuel + 1, c =>
    let c := skipTo indent c
    match c.takeBreak? with
    | none => ([], c)
    | some (b, c) =>
      let (bs, c) := blockBreaks indent fuel c
      (b :: bs, c)

/-- The lines of a block; `breaks` are the empty lines before the next one. At the end, the last
line break and the empty lines after it are chomped. -/
def blockLines (folded : Bool) (chomping : Chomping) (indent : Nat) :
    (fuel : Nat) → (breaks : Text) → Cursor → Text × Cursor
  | 0, _, c => ([], c)
  | fuel + 1, breaks, c =>
    let startsBlank (c : Cursor) := c.peek == some ' ' || c.peek == some '\t'
    let (line, after) := c.takeWhile fun x => !isBreak x
    let (ending, after) := match after.takeBreak? with
      | some (b, after) => ([b], after)
      | none => ([], after)
    let (more, after) := blockBreaks indent after.rest.length after
    if after.column == indent && after.peek.isSome then
      let join :=
        if folded && ending == ['\n'] && !startsBlank c && !startsBlank after then
          if more.isEmpty then [' '] else []
        else ending
      let (rest, after) := blockLines folded chomping indent fuel more after
      (breaks ++ line ++ join ++ rest, after)
    else
      let tail := match chomping with
        | .strip => []
        | .clip => ending
        | .keep => ending ++ more
      (breaks ++ line ++ tail, after)

/-- A block scalar under a parent with this indentation, which is -1 at the top. -/
def blockScalar (parent : Int) (folded : Bool) (c : Cursor) :
    Except Fault (Text × Cursor) := do
  let (chomping, width, c) ← blockHeader c.next
  let least := max 1 (parent + 1).toNat
  let (breaks, indent, c) := match width with
    | some w =>
      let indent := least + w - 1
      let (bs, c) := blockBreaks indent (c.rest.length + 1) c
      (bs, indent, c)
    | none =>
      let (bs, widest, c) := blockIndent (c.rest.length + 1) c 0
      (bs, max least widest, c)
  if c.column == indent && c.peek.isSome then
    return blockLines folded chomping indent (c.rest.length + 1) breaks c
  else return (if chomping == .keep then breaks else [], c)

end TaggedCorpus.Yaml
