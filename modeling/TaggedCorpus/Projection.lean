import TaggedCorpus.Span.Overlap

/-!
Token offsets of a document projected into its sentences.

The tokens that lie within a sentence are kept and counted from its start. A sentence keeps
the text it covers, so the text of every token can be read off it.
-/

namespace TaggedCorpus

/-- Why a text and spans over it do not fit together. -/
inductive ProjectionFault
  | exceeds (f : CoverFault)
  | outsideText (span : Span) (length : Nat)
  deriving DecidableEq

def ProjectionFault.message : ProjectionFault → String
  | .exceeds f => f.message
  | .outsideText span length =>
    "Span " ++ span.describe ++ s!" is outside of text of length {length}"

/-- A text and the spans of its tokens, as offsets from its start. -/
structure TokenizedText where
  text : Text
  spans : List Span
  within : ∀ s ∈ spans, s.stop ≤ text.length
  deriving DecidableEq

namespace TokenizedText

/-- The text with these token spans. The first span that reaches past the end is reported. -/
def of? (text : Text) (spans : List Span) : Except ProjectionFault TokenizedText :=
  match h : spans.find? fun s => text.length < s.stop with
  | some s => .error (.outsideText s text.length)
  | none => .ok ⟨text, spans, by simpa using h⟩

/-- The texts of the tokens. -/
def tokens (t : TokenizedText) : List Text := t.spans.map fun s => t.text.slice s.start s.stop

end TokenizedText

namespace Span

/-- The spans that lie within this one, in their order. -/
def within (outer : Span) (spans : List Span) : List Span := spans.filter outer.contains

/-- A span within another, counted from the start of that one and without its label. -/
def relativeTo (s outer : Span) : Span where
  start := s.start - outer.start
  stop := s.stop - outer.start
  start_le_stop := by
    have := s.start_le_stop
    omega

/-- The token spans within a sentence, counted from its start, ascending. -/
def projectTokens (sentence : Span) (tokens : List Span) : List Span :=
  sorted ((sentence.within tokens).map (·.relativeTo sentence))

end Span

/-- The sentence of a document at this span, with its tokens. -/
def projectSentence (text : Text) (sentence : Span) (tokens : List Span) :
    Except ProjectionFault TokenizedText :=
  match sentence.coveredText text with
  | .error f => .error (.exceeds f)
  | .ok covered => TokenizedText.of? covered (sentence.projectTokens tokens)

/-- The sentences of a document in order, up to the first that is not within the text. -/
def projectDocument (text : Text) (sentences tokens : List Span) :
    Except ProjectionFault (List TokenizedText) :=
  sentences.mapM fun sentence => projectSentence text sentence tokens

end TaggedCorpus
