import TaggedCorpus.Yaml.Scalar
import TaggedCorpus.Yaml.TypeName

/-!
The tokens of a YAML text.

Indentation outside brackets is made visible: a block begins where a line starts further to the
right than its parent and ends where one starts further to the left. A key is known to be one
only at the colon after it, so the place of a token that may turn out to be a key is remembered,
and what opens the mapping is put in front of it later. A text that goes wrong somewhere still has
the tokens before that place, as far as nothing can be put in front of them any more.
-/

namespace TaggedCorpus.Yaml

inductive Token
  | directive (d : Directive)
  | documentStart
  | documentEnd
  | listStart
  | mapStart
  | blockEnd
  | openList
  | closeList
  | openMap
  | closeMap
  | item
  | comma
  | key
  | value
  | alias (name : Text)
  | anchor (name : Text)
  | typed (name : TypeName)
  | scalar (text : Text) (plain : Bool)

/-- A token that may turn out to be a key: how many tokens stand before it, whether nothing else
can stand there, and its place. -/
structure KeyPlace where
  tokensBefore : Nat
  required : Bool
  index : Nat
  line : Nat
  column : Nat

/-- A text with some of its tokens read. `indents` are the columns of the open blocks, innermost
first, and `keys` the possible key of each open bracket and of the text itself, innermost
first. -/
structure Lexer where
  place : Cursor
  tokens : Array Token := #[]
  indents : List Nat := []
  keys : List (Option KeyPlace) := [none]
  keyAllowed : Bool := true

namespace Lexer

def inBrackets (l : Lexer) : Bool := 1 < l.keys.length

/-- The column of the innermost block, or -1 outside all blocks. -/
def indent (l : Lexer) : Int := match l.indents with
  | [] => -1
  | i :: _ => i

def push (l : Lexer) (t : Token) : Lexer := { l with tokens := l.tokens.push t }

/-- Drops what can no longer be a key: it stands on an earlier line or too far back. -/
def dropStaleKeys (l : Lexer) : Except Fault Lexer := do
  let keys ← l.keys.mapM fun k? => match k? with
    | none => .ok none
    | some k =>
      if k.line != l.place.line || 1024 < l.place.index - k.index then
        if k.required then .error .malformed else .ok none
      else .ok (some k)
  return { l with keys }

/-- Gives up the possible key of the innermost bracket. -/
def dropKey (l : Lexer) : Except Fault Lexer :=
  match l.keys with
  | some k :: rest => if k.required then .error .malformed else .ok { l with keys := none :: rest }
  | _ => .ok l

/-- Remembers that the next token may turn out to be a key. -/
def saveKey (l : Lexer) : Except Fault Lexer :=
  if l.keyAllowed then do
    let l ← l.dropKey
    let key : KeyPlace := {
      tokensBefore := l.tokens.size
      required := !l.inBrackets && l.indent == l.place.column
      index := l.place.index
      line := l.place.line
      column := l.place.column }
    return { l with keys := some key :: l.keys.drop 1 }
  else .ok l

/-- Closes the blocks that are further to the right than a column. -/
def closeBlocks (l : Lexer) (column : Int) : Lexer :=
  if l.inBrackets then l
  else
    let open? (i : Nat) : Bool := column < i
    { l with
      tokens := l.tokens ++ Array.replicate (l.indents.takeWhile open?).length .blockEnd
      indents := l.indents.dropWhile open? }

/-- Opens a block at a column that is further to the right than the innermost one; the token
that opens it goes before the token with the given number. -/
def openBlock (l : Lexer) (column : Nat) (start : Token) (position : Nat) : Lexer :=
  if !l.inBrackets && l.indent < column then
    { l with
      indents := column :: l.indents
      tokens := l.tokens.insertIdxIfInBounds position start }
  else l

/-- Reads past `n` characters that are one token. -/
def take (l : Lexer) (n : Nat) (t : Token) : Lexer :=
  { l.push t with place := l.place.skip n }

def separator (l : Lexer) (n : Nat) (t : Token) : Except Fault Lexer := do
  let l ← (l.closeBlocks (-1)).dropKey
  return { l.take n t with keyAllowed := false }

def openBracket (l : Lexer) (t : Token) : Except Fault Lexer := do
  let l ← l.saveKey
  return { l.take 1 t with keys := none :: l.keys, keyAllowed := true }

def closeBracket (l : Lexer) (t : Token) : Except Fault Lexer := do
  if !l.inBrackets then throw .malformed
  let l ← l.dropKey
  return { l.take 1 t with keys := l.keys.drop 1, keyAllowed := false }

def comma (l : Lexer) : Except Fault Lexer := do
  let l ← l.dropKey
  return { l.take 1 .comma with keyAllowed := true }

def item (l : Lexer) : Except Fault Lexer := do
  if !l.inBrackets && !l.keyAllowed then throw .malformed
  let l ← (l.openBlock l.place.column .listStart l.tokens.size).dropKey
  return { l.take 1 .item with keyAllowed := true }

def explicitKey (l : Lexer) : Except Fault Lexer := do
  if !l.inBrackets && !l.keyAllowed then throw .malformed
  let l ← (l.openBlock l.place.column .mapStart l.tokens.size).dropKey
  return { l.take 1 .key with keyAllowed := !l.inBrackets }

/-- The colon after a key, or the one that stands for itself after an explicit key. -/
def colon (l : Lexer) : Except Fault Lexer :=
  match l.keys with
  | some k :: rest =>
    let l := { l with
      keys := none :: rest
      tokens := l.tokens.insertIdxIfInBounds k.tokensBefore .key
      keyAllowed := false }
    .ok ((l.openBlock k.column .mapStart k.tokensBefore).take 1 .value)
  | _ => do
    if !l.inBrackets && !l.keyAllowed then throw .malformed
    let l ← (l.openBlock l.place.column .mapStart l.tokens.size).dropKey
    return { l.take 1 .value with keyAllowed := !l.inBrackets }

/-- A scalar within a line, which may be a key. -/
def inlineScalar (l : Lexer) (text : Text) (plain : Bool) (s : Scanned) :
    Except Fault Lexer := do
  let l ← l.saveKey
  return { l.push (.scalar text plain) with place := s.place, keyAllowed := s.onNewLine }

/-- The name after an ampersand or an asterisk. -/
def reference (l : Lexer) (token : Text → Token) : Except Fault Lexer := do
  let l ← l.saveKey
  let (name, c) := l.place.next.takeWhile isNameChar
  let ended := endsIndicator c.peek || c.peek.any fun x => "?:,]\x7d%@`".toList.contains x
  if name.isEmpty || !ended then throw .malformed
  return { l.push (token name) with place := c, keyAllowed := false }

def typed (l : Lexer) : Except Fault Lexer := do
  let l ← l.saveKey
  let (name, c) ← typeName l.place
  return { l.push (.typed name) with place := c, keyAllowed := false }

def directive (l : Lexer) : Except Fault Lexer := do
  let l ← (l.closeBlocks (-1)).dropKey
  let (d, c) ← Yaml.directive l.place
  return { l.push (.directive d) with place := c, keyAllowed := false }

def block (l : Lexer) (folded : Bool) : Except Fault Lexer := do
  let l ← l.dropKey
  let (text, c) ← blockScalar l.indent folded l.place
  return { l.push (.scalar text false) with place := c, keyAllowed := true }

def quoted (l : Lexer) (double : Bool) : Except Fault Lexer := do
  let (text, c) ← quotedScalar double l.place
  l.inlineScalar text false ⟨text, c, false⟩

/-- Whether a plain scalar can begin with this character. -/
def startsPlain (l : Lexer) (c : Char) : Bool :=
  let indicators := "-?:,[]\x7b\x7d#&*!|>'\"%@`".toList
  !(endsIndicator (some c) || indicators.contains c) ||
    (!endsIndicator (l.place.peekAt 1) && (c == '-' || (!l.inBrackets && (c == '?' || c == ':'))))

/-- Reads one token, which begins with this character. -/
def token (l : Lexer) (c : Char) : Except Fault Lexer :=
  let parted := endsIndicator (l.place.peekAt 1)
  if l.place.column == 0 && c == '%' then l.directive
  else if l.place.column == 0 && l.place.atSeparator then
    l.separator 3 (if c == '-' then .documentStart else .documentEnd)
  else if c == '[' then l.openBracket .openList
  else if c == '\x7b' then l.openBracket .openMap
  else if c == ']' then l.closeBracket .closeList
  else if c == '\x7d' then l.closeBracket .closeMap
  else if c == ',' then l.comma
  else if c == '-' && parted then l.item
  else if c == '?' && (l.inBrackets || parted) then l.explicitKey
  else if c == ':' && (l.inBrackets || parted) then l.colon
  else if c == '*' then l.reference .alias
  else if c == '&' then l.reference .anchor
  else if c == '!' then l.typed
  else if c == '|' && !l.inBrackets then l.block false
  else if c == '>' && !l.inBrackets then l.block true
  else if c == '\'' then l.quoted false
  else if c == '"' then l.quoted true
  else if l.startsPlain c then
    let s := plain (l.indent + 1) l.inBrackets l.place
    l.inlineScalar s.text true s
  else .error .malformed

/-- Reads the next token, unless the text ends. -/
def step (l : Lexer) : Except Fault (Option Lexer) := do
  let (place, passed) := l.place.skipGaps (l.place.rest.length + 1) false
  let l := { l with place, keyAllowed := l.keyAllowed || (passed && !l.inBrackets) }
  let l := (← l.dropStaleKeys).closeBlocks place.column
  match place.peek with
  | none => return none
  | some c => some <$> l.token c

/-- The tokens in front of which nothing can be put any more. -/
def settled (l : Lexer) : List Token :=
  let keys := match l.dropStaleKeys with
    | .ok l => l.keys
    | .error _ => l.keys
  let places := keys.filterMap fun k? => k?.map (·.tokensBefore)
  l.tokens.toList.take (places.foldl min l.tokens.size)

/-- All tokens, or those before something goes wrong. -/
def run : (fuel : Nat) → Lexer → List Token × Option Fault
  | 0, l => (l.tokens.toList, none)
  | fuel + 1, l => match l.step with
    | .error f => (l.settled, some f)
    | .ok (some next) => run fuel next
    | .ok none =>
      match (l.closeBlocks (-1)).dropKey with
      | .ok l => (l.tokens.toList, none)
      | .error f => (l.settled, some f)

end Lexer

/-- The tokens of a text, and what goes wrong after them if anything does. A byte order mark at
the start of the text is passed over. -/
def tokens (t : Text) : List Token × Option Fault :=
  if t.all isAllowed then
    let start : Cursor := { rest := t }
    Lexer.run (t.length + 1) { place := if start.peek == some '\ufeff' then start.next else start }
  else ([], some .malformed)

end TaggedCorpus.Yaml
