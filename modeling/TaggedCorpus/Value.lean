import TaggedCorpus.Calendar.Moment
import TaggedCorpus.Number.Shortest
import TaggedCorpus.Text.Quoted

/-!
Values of settings and requests: what a YAML or JSON document can hold.
-/

namespace TaggedCorpus

/-- A scalar, or a list, pair, mapping or set with its parts in order. A list or mapping that
stands within itself is written out once, and `again` stands for it from then on. -/
inductive Value
  | null
  | bool (b : Bool)
  | int (n : Int)
  | float (x : Float)
  | text (t : Text)
  | bytes (bs : List UInt8)
  | date (d : Date)
  | moment (m : Moment)
  | list (items : List Value)
  | pair (first second : Value)
  | map (entries : List (Value × Value))
  | set (items : List Value)
  | again (isMap : Bool)
  deriving Inhabited

namespace Value

/-- The name of a kind of value, as messages give it. -/
def kind : Value → String
  | null => "NoneType"
  | bool _ => "bool"
  | int _ => "int"
  | float _ => "float"
  | text _ => "str"
  | bytes _ => "bytes"
  | date _ => "datetime.date"
  | moment _ => "datetime.datetime"
  | list _ | again false => "list"
  | pair .. => "tuple"
  | map _ | again true => "dict"
  | set _ => "set"

/-- Whether a value counts as present: all do but null, false, zeros and what is empty. -/
def isPresent : Value → Bool
  | null => false
  | bool b => b
  | int n => n != 0
  | float x => x != 0.0
  | text t => !t.isEmpty
  | bytes bs => !bs.isEmpty
  | list items | set items => !items.isEmpty
  | map entries => !entries.isEmpty
  | date _ | moment _ | pair .. | again _ => true

/-- The exact value of a number. Truth values count as one and zero. -/
def number? : Value → Option Number.Exact
  | bool b => some (.ofInt (if b then 1 else 0))
  | int n => some (.ofInt n)
  | float x => Number.Exact.ofFloat? x
  | _ => none

/-- Whether two scalars are one key of a mapping. Numbers are compared by what they are worth, and
what is no number counts as itself. -/
def sameKey (a b : Value) : Bool :=
  match a, b with
  | null, null => true
  | text s, text t => s == t
  | bytes s, bytes t => s == t
  | date d, date e => d == e
  | moment m, moment n => m.same n
  | a, b => match a.number?, b.number? with
    | some x, some y => x.equals y
    | none, none => match a, b with
      | float x, float y => x == y || (x.isNaN && y.isNaN)
      | _, _ => false
    | _, _ => false

/-- The entries with one more. A key that is there keeps its place and gets the new value. -/
def insert {α : Type} (entries : List (Value × α)) (key : Value) (value : α) :
    List (Value × α) :=
  if entries.any fun e => sameKey e.1 key then
    entries.map fun e => if sameKey e.1 key then (e.1, value) else e
  else entries ++ [(key, value)]

/-- Whether the value is this text. -/
def isText (key : Text) : Value → Bool
  | text t => t == key
  | _ => false

/-- What entries give a key. -/
def lookup? {α : Type} (entries : List (Value × α)) (key : Text) : Option α :=
  (entries.find? fun e => e.1.isText key).map (·.2)

mutual

/-- A value as it stands within a list or mapping, with texts in quotes. -/
def showNested : Value → String
  | null => "None"
  | bool true => "True"
  | bool false => "False"
  | int n => toString n
  | float x => Number.floatText x
  | text t => t.quote
  | bytes bs => quoteBytes bs
  | date d => d.nestedText
  | moment m => m.nestedText
  | list items => "[" ++ ", ".intercalate (showItems items) ++ "]"
  | pair a b => "(" ++ showNested a ++ ", " ++ showNested b ++ ")"
  | map entries => "\x7b" ++ ", ".intercalate (showEntries entries) ++ "\x7d"
  | set [] => "set()"
  | set items => "\x7b" ++ ", ".intercalate (showItems items) ++ "\x7d"
  | again false => "[...]"
  | again true => "\x7b...\x7d"

def showItems : List Value → List String
  | [] => []
  | v :: rest => showNested v :: showItems rest

def showEntries : List (Value × Value) → List String
  | [] => []
  | (k, v) :: rest => (showNested k ++ ": " ++ showNested v) :: showEntries rest

end

/-- A value as a part of a message. A text, a date and a moment stand there as they are. -/
def display : Value → String
  | text t => String.ofList t
  | date d => d.text
  | moment m => m.text
  | v => v.showNested

end Value

end TaggedCorpus
