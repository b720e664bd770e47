import TaggedCorpus.Text.Basic

/-!
Spans: half-open intervals of positions, with a label or without.

The positions are token indices or code point offsets. A span carries the proof that it does
not run backwards, so an operation that could make it do so goes through `Span.of?`.
-/

namespace TaggedCorpus

/-- The positions from `start` up to but not including `stop`, and a label if there is one. -/
structure Span where
  start : Nat
  stop : Nat
  label : Option Text := none
  start_le_stop : start ≤ stop := by omega
  deriving DecidableEq

/-- Why two integers bound no span. -/
inductive SpanFault
  | negativeStart (start stop : Int)
  | backwards (start stop : Int)
  deriving DecidableEq

def SpanFault.message : SpanFault → String
  | .negativeStart start stop => s!"Invalid span [{start}, {stop}): negative start"
  | .backwards start stop => s!"Invalid span [{start}, {stop})"

namespace Span

/-- The span with these bounds. A negative start is reported before a reversed order. -/
def of? (start stop : Int) (label : Option Text) : Except SpanFault Span :=
  if start < 0 then .error (.negativeStart start stop)
  else if h : stop < start then .error (.backwards start stop)
  else .ok ⟨start.toNat, stop.toNat, label, by omega⟩

def length (s : Span) : Nat := s.stop - s.start

/-- Whether the span covers no position. -/
def isEmpty (s : Span) : Bool := s.start == s.stop

/-! ### Order -/

/-- Spans are ordered by their start and then by their stop; the label does not count. -/
def le (a b : Span) : Bool := a.start < b.start || (a.start == b.start && a.stop ≤ b.stop)

def lt (a b : Span) : Bool := a.start < b.start || (a.start == b.start && a.stop < b.stop)

/-! ### Relations -/

/-- Whether a position lies in the span. -/
def covers (s : Span) (i : Int) : Bool := s.start ≤ i && i < s.stop

/-- Whether this span starts at a position of the other one. -/
def startsIn (a b : Span) : Bool := b.start ≤ a.start && a.start < b.stop

/-- Whether the other span lies within this one. -/
def contains (a b : Span) : Bool := a.start ≤ b.start && b.stop ≤ a.stop

def intersects (a b : Span) : Bool :=
  a.contains b || b.contains a || b.startsIn a || a.startsIn b

/-- Whether the spans intersect but neither contains the other. -/
def crosses (a b : Span) : Bool :=
  !a.contains b && !b.contains a && (b.startsIn a || a.startsIn b)

/-- Whether neither span ends before the other starts. -/
def overlaps (a b : Span) : Bool := !(a.stop ≤ b.start || b.stop ≤ a.start)

/-! ### Movement and text -/

/-- The span moved to the left. -/
def shift (s : Span) (offset : Int) : Except SpanFault Span :=
  of? (s.start - offset) (s.stop - offset) s.label

/-- The span as messages show it. -/
def describe (s : Span) : String :=
  let bounds := s!"[{s.start}..{s.stop})"
  match s.label with
  | none => bounds
  | some l => bounds ++ " " ++ String.ofList l

end Span

/-- A span that reaches past the end of a text of this length. -/
structure CoverFault where
  span : Span
  length : Nat
  deriving DecidableEq

def CoverFault.message (f : CoverFault) : String :=
  "Span " ++ f.span.describe ++ s!" exceeds text of length {f.length}"

/-- The text a span covers. -/
def Span.coveredText (s : Span) (t : Text) : Except CoverFault Text :=
  if t.length < s.stop then .error ⟨s, t.length⟩ else .ok (t.slice s.start s.stop)

end TaggedCorpus
