import TaggedCorpus.Yaml.Timestamp

/-!
The types of nodes, and the types that plain scalars have by the way they are written.
-/

namespace TaggedCorpus.Yaml

/-- The types of the common schema. A scalar that merges mappings and one that gives a mapping
its default mean something as keys only. -/
inductive Tag
  | null
  | bool
  | int
  | float
  | bytes
  | moment
  | text
  | list
  | pairs
  | map
  | set
  | merge
  | default
  | other
  deriving DecidableEq

namespace Tag

/-- The full names of the types of the common schema begin with this. -/
def stem : Text := "tag:yaml.org,2002:".toList

/-- The types of the common schema by the rest of their names. -/
def names : List (String × Tag) := [
  ("null", null), ("bool", bool), ("int", int), ("float", float), ("binary", bytes),
  ("timestamp", moment), ("str", text), ("seq", list), ("omap", pairs), ("pairs", pairs),
  ("map", map), ("set", set), ("merge", merge), ("value", default)]

/-- The type with this full name. -/
def ofName (name : Text) : Tag :=
  match stem.isPrefixOf? name with
  | some rest => (names.lookup (String.ofList rest)).getD other
  | none => other

/-! ### Plain scalars -/

open Number (isDigit splitSign)

def nulls : List String := ["", "~", "null", "Null", "NULL"]

def truths : List String := ["yes", "Yes", "YES", "true", "True", "TRUE", "on", "On", "ON"]

def falsehoods : List String := ["no", "No", "NO", "false", "False", "FALSE", "off", "Off", "OFF"]

/-- Whether a text is made of one or more characters of a class and underscores. -/
def isGrouped (p : Char → Bool) (t : Text) : Bool :=
  !t.isEmpty && t.all fun c => p c || c == '_'

/-- Whether a text is made of digits and underscores and begins with a digit. -/
def isDecimal (t : Text) : Bool := t.head?.any isDigit && isGrouped isDigit t

/-- Whether the texts between colons are places of a number in base sixty. -/
def arePlaces (ts : List Text) : Bool :=
  ts.all fun t =>
    t.all isDigit && (t.length == 1 || (t.length == 2 && t.head?.any (· ≤ '5')))

/-- Whether a text without sign writes a whole number: in base two, eight, ten, sixteen or
sixty. -/
def isWhole (t : Text) : Bool :=
  match t with
  | '0' :: 'b' :: rest => isGrouped (fun c => c == '0' || c == '1') rest
  | '0' :: 'x' :: rest => isGrouped (fun c => (Number.digitValue? 16 c).isSome) rest
  | '0' :: rest => rest.all fun c => ('0' ≤ c && c ≤ '7') || c == '_'
  | t => match t.splitOn ':' with
    | first :: places => isDecimal first && arePlaces places
    | [] => false

/-- Whether a text is a power of ten as it may follow a fraction: nothing, or a letter, a sign
and digits. -/
def isPower : Text → Bool
  | [] => true
  | e :: sign :: digits =>
    (e == 'e' || e == 'E') && (sign == '+' || sign == '-') && !digits.isEmpty &&
      digits.all isDigit
  | _ => false

/-- Whether a text writes a number with a point. Without digits before the point it has no
sign. -/
def isFraction (t : Text) : Bool :=
  let (_, body) := splitSign t
  let hasSign := body.length < t.length
  let whole := body.takeWhile (· != '.')
  match body.drop whole.length with
  | [] => false
  | _ :: rest =>
    let part := rest.takeWhile fun c => isDigit c || c == '_'
    let power := rest.drop part.length
    match whole.splitOn ':' with
    | [[]] => !hasSign && part.head?.any isDigit && isPower power
    | [whole] => isDecimal whole && isPower power
    | first :: places => isDecimal first && arePlaces places && power.isEmpty
    | [] => false

/-- Whether a text writes infinity or what is no number. -/
def isSpecialFloat (t : Text) : Bool :=
  let unsigned := String.ofList (splitSign t).2
  [".inf", ".Inf", ".INF"].contains unsigned ||
    [".nan", ".NaN", ".NAN"].contains (String.ofList t)

/-- The single characters that no plain scalar may be. -/
def reserved : List String := ["!", "&", "*"]

/-- The type of a plain scalar. A line feed at the end of a longer one is passed over. -/
def ofPlain (t : Text) : Tag :=
  let t := if 1 < t.length && t.getLast? == some '\n' then t.dropLast else t
  let word := String.ofList t
  if nulls.contains word then null
  else if truths.contains word || falsehoods.contains word then bool
  else if isWhole (splitSign t).2 then int
  else if isFraction t || isSpecialFloat t then float
  else if (Timestamp.parse? t).any Timestamp.isEvident then moment
  else if word == "<<" then merge
  else if word == "=" then default
  else if reserved.contains word then other
  else text

end Tag

end TaggedCorpus.Yaml
