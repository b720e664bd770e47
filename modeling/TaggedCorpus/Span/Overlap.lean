import TaggedCorpus.Span.Basic

/-!
Spans in order, and the first overlap among them.

The sweep over the ordered spans remembers only the span that reaches furthest right: a later
span overlaps some earlier one exactly if it overlaps that one.
-/

namespace TaggedCorpus.Span

/-- The spans in ascending order. Spans with equal bounds keep their order. -/
def sorted (spans : List Span) : List Span := spans.mergeSort le

/-- The first span that overlaps `furthest` or a span before it, with the one it overlaps.
An empty span overlaps a span that it lies strictly inside of. -/
def sweep : (furthest : Option Span) → List Span → Option (Span × Span)
  | _, [] => none
  | none, s :: rest => sweep (if s.isEmpty then none else some s) rest
  | some f, s :: rest =>
    if s.isEmpty then
      if f.start < s.start && s.start < f.stop then some (f, s) else sweep (some f) rest
    else if f.overlaps s then some (f, s)
    else sweep (some (if f.stop < s.stop then s else f)) rest

/-- The first pair of overlapping spans in ascending order. -/
def findOverlap (spans : List Span) : Option (Span × Span) := sweep none (sorted spans)

end TaggedCorpus.Span
