import TaggedCorpus.Span.Basic

/-!
Spans compared with what need not be a span.

Equality with another kind of value is false; order between the two is an error.
-/

namespace TaggedCorpus

/-- What a span can be compared with. -/
inductive Comparand
  | span (s : Span)
  | nothing
  | integer
  | text
  | flag

/-- The four order relations. -/
inductive OrderRelation
  | lt | le | gt | ge

def OrderRelation.symbol : OrderRelation → String
  | .lt => "<"
  | .le => "<="
  | .gt => ">"
  | .ge => ">="

/-- A span put in order with a value of another kind. -/
structure Incomparable where
  relation : OrderRelation
  other : Comparand

def Comparand.kind : Comparand → String
  | .span _ => "Span"
  | .nothing => "NoneType"
  | .integer => "int"
  | .text => "str"
  | .flag => "bool"

def Incomparable.message (e : Incomparable) : String :=
  "'" ++ e.relation.symbol ++ "' not supported between instances of 'Span' and '" ++
    e.other.kind ++ "'"

namespace Span

def equals (s : Span) : Comparand → Bool
  | .span o => s = o
  | _ => false

def compare (r : OrderRelation) (s : Span) : Comparand → Except Incomparable Bool
  | .span o => .ok <| match r with
    | .lt => s.lt o
    | .le => s.le o
    | .gt => o.lt s
    | .ge => o.le s
  | other => .error ⟨r, other⟩

end Span

end TaggedCorpus
