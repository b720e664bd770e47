import TaggedCorpus.Encoding.Utf8
import TaggedCorpus.Yaml.Cursor
import TaggedCorpus.Yaml.Fault

/-!
The names of types as they are written before nodes, and the directives before a document.

A name is written in full within angle brackets. Otherwise it begins with a handle, which stands
for the first part of the full name, and directives tell what handles stand for.
-/

namespace TaggedCorpus.Yaml

/-- The name of a type as it is written: a handle and the rest, or the full name. -/
structure TypeName where
  handle : Option Text
  rest : Text

/-- The name that leaves the type open. -/
def TypeName.unspecific : Text := ['!']

/-- What a directive says: the version of the format, what a handle stands for, or something
else. -/
inductive Directive
  | version (major : Int)
  | handle (handle stem : Text)
  | other

/-- The characters of names of anchors and within handles. -/
def isNameChar (c : Char) : Bool := c.isAlphanum || c == '-' || c == '_'

/-- The characters that stand for themselves in the name of a type. -/
def isTypeNameChar (c : Char) : Bool :=
  c.isAlphanum || "-;/?:@&=+$,_.!~*'()[]".toList.contains c

/-- The bytes that come next, each a percent sign and two hexadecimal digits. -/
def escapedBytes? : Text → Option (List UInt8 × Text)
  | '%' :: a :: b :: rest => do
    let high ← Number.digitValue? 16 a
    let low ← Number.digitValue? 16 b
    let (bytes, rest) ← escapedBytes? rest
    some (UInt8.ofNat (high * 16 + low) :: bytes, rest)
  | '%' :: _ => none
  | t => some ([], t)

/-- The part of a type's name that comes next and what follows it. Escaped bytes are UTF-8. -/
def typeNameFrom : (fuel : Nat) → Text → Option (Text × Text)
  | _, [] => some ([], [])
  | 0, t => some ([], t)
  | fuel + 1, c :: rest => do
    if c == '%' then
      let (bytes, rest) ← escapedBytes? (c :: rest)
      let d := Utf8.decode bytes
      if d.ending != .complete then none
      let (name, rest) ← typeNameFrom fuel rest
      some (d.text ++ name, rest)
    else if isTypeNameChar c then
      let (name, rest) ← typeNameFrom fuel rest
      some (c :: name, rest)
    else some ([], c :: rest)

/-- A part of a type's name, which may not be empty. -/
def typeNamePart (c : Cursor) : Except Fault (Text × Cursor) :=
  match typeNameFrom c.rest.length c.rest with
  | none => .error .malformed
  | some (name, rest) =>
    let read := c.rest.length - rest.length
    if read == 0 then .error .malformed else .ok (name, c.skip read)

/-- A handle: an exclamation mark before a space, or two of them around a name. -/
def handle (c : Cursor) : Except Fault (Text × Cursor) :=
  if c.peek != some '!' then .error .malformed
  else if c.peekAt 1 == some ' ' then .ok (['!'], c.next)
  else
    let name := (c.rest.drop 1).takeWhile isNameChar
    if c.peekAt (name.length + 1) == some '!' then
      .ok (c.rest.take (name.length + 2), c.skip (name.length + 2))
    else .error .malformed

/-- The name of a type, which begins with an exclamation mark. -/
def typeName (c : Cursor) : Except Fault (TypeName × Cursor) := do
  let (name, c) ← if c.peekAt 1 == some '<' then do
      let (name, c) ← typeNamePart (c.skip 2)
      if c.peek != some '>' then throw .malformed
      pure (⟨none, name⟩, c.next)
    else if endsIndicator (c.peekAt 1) then pure (⟨none, TypeName.unspecific⟩, c.next)
    else do
      let word := (c.rest.drop 1).takeWhile fun x => !endsWord (some x)
      let (handle, c) ← if word.contains '!' then handle c else pure (['!'], c.next)
      let (rest, c) ← typeNamePart c
      pure (⟨some handle, rest⟩, c)
  if endsWord c.peek then return (name, c) else throw .malformed

/-! ### Directives -/

def versionNumber (c : Cursor) : Except Fault (Int × Cursor) := do
  let (digits, c) := c.takeWhile Number.isDigit
  if digits.isEmpty then throw .malformed
  let n ← (Number.whole 10 digits).mapError fun f => .scalar (.number f)
  return (n, c)

/-- Two numbers with a point between them, of which the first one matters. -/
def version (c : Cursor) : Except Fault (Directive × Cursor) := do
  let (major, c) ← versionNumber c
  if c.peek != some '.' then throw .malformed
  let (_, c) ← versionNumber c.next
  return (.version major, c)

/-- A handle and what it stands for. -/
def handleMeaning (c : Cursor) : Except Fault (Directive × Cursor) := do
  let (handle, c) ← handle c
  if c.peek != some ' ' then throw .malformed
  let (stem, c) ← typeNamePart (c.skipWhile (· == ' '))
  return (.handle handle stem, c)

/-- A directive, which begins with a percent sign and takes up the rest of its line. -/
def directive (c : Cursor) : Except Fault (Directive × Cursor) := do
  let (name, c) := c.next.takeWhile isNameChar
  if name.isEmpty || !endsWord c.peek then throw .malformed
  let start := c.skipWhile (· == ' ')
  let (d, c) ←
    if name == "YAML".toList then version start
    else if name == "TAG".toList then handleMeaning start
    else pure (.other, c.skipWhile fun x => !isBreak x)
  if !endsWord c.peek then throw .malformed
  let c := c.skipWhile (· == ' ')
  let c := if c.peek == some '#' then c.skipWhile fun x => !isBreak x else c
  if endsLine c.peek then return (d, (c.takeBreak?.map (·.2)).getD c) else throw .malformed

end TaggedCorpus.Yaml
