import TaggedCorpus.Marker
import TaggedCorpus.Span.Overlap

/-!
Annotated sentences and the samples of a corpus.

A sentence is a list of tokens with entity spans over their indices, such that the check
`Sentence.fault?` finds nothing wrong. A sample is a sentence, or the signal to drop what was
remembered of the sentences before.
-/

namespace TaggedCorpus

/-- What can be wrong with spans over tokens. -/
inductive SentenceFault
  | outside (span : Span) (tokens : Nat)
  | badLabel (label : Text)
  | duplicate
  | overlap (first second : Span)
  deriving DecidableEq

def SentenceFault.message : SentenceFault → String
  | .outside span tokens => "Span " ++ span.describe ++ s!" is outside of the {tokens} tokens"
  | .badLabel label => "Invalid entity type " ++ label.quote
  | .duplicate => "Sample contains duplicate spans"
  | .overlap first second => "Spans " ++ first.describe ++ " and " ++ second.describe ++ " overlap"

namespace Sentence

/-- What is wrong with one span over this many tokens. -/
def spanFault? (tokens : Nat) (span : Span) : Option SentenceFault :=
  if tokens < span.stop then some (.outside span tokens)
  else match span.label with
    | none => none
    | some label => if isLabel label then none else some (.badLabel label)

/-- The first thing that is wrong with the spans: with one of them by itself, else a repetition,
else an overlap. -/
def fault? (tokens : Nat) (spans : List Span) : Option SentenceFault :=
  match spans.findSome? (spanFault? tokens) with
  | some f => some f
  | none =>
    if spans.Nodup then (Span.findOverlap spans).map fun p => .overlap p.1 p.2
    else some .duplicate

end Sentence

/-- Tokens and the entities among them, in the order in which they are stored. -/
structure Sentence where
  tokens : List Text
  spans : List Span
  sound : Sentence.fault? tokens.length spans = none
  deriving DecidableEq

namespace Sentence

/-- The sentence with these tokens and spans, if nothing is wrong with them. -/
def of? (tokens : List Text) (spans : List Span) : Except SentenceFault Sentence :=
  match h : fault? tokens.length spans with
  | some f => .error f
  | none => .ok ⟨tokens, spans, h⟩

/-- The tokens a span covers. -/
def coveredTokens (s : Sentence) (span : Span) : List Text :=
  (s.tokens.take span.stop).drop span.start

end Sentence

/-- What a line of a corpus stands for. -/
inductive Sample
  | control
  | sentence (s : Sentence)
  deriving DecidableEq

/-- Why the parts make no sample. -/
inductive SampleFault
  | burdenedControl
  | sentence (f : SentenceFault)
  deriving DecidableEq

def SampleFault.message : SampleFault → String
  | .burdenedControl => "A reset sample must not carry tokens or spans"
  | .sentence f => f.message

namespace Sample

/-- The sample with these parts; `reset` asks for the control sample, which has none. -/
def of? (tokens : List Text) (spans : List Span) (reset : Bool) : Except SampleFault Sample :=
  if reset then
    if tokens.isEmpty && spans.isEmpty then .ok control else .error .burdenedControl
  else match Sentence.of? tokens spans with
    | .ok s => .ok (sentence s)
    | .error f => .error (.sentence f)

def tokens : Sample → List Text
  | control => []
  | sentence s => s.tokens

def spans : Sample → List Span
  | control => []
  | sentence s => s.spans

def isControl : Sample → Bool
  | control => true
  | sentence _ => false

/-- The tokens a span covers; a control sample has none. -/
def coveredTokens : Sample → Span → List Text
  | control, _ => []
  | sentence s, span => s.coveredTokens span

end Sample

end TaggedCorpus
