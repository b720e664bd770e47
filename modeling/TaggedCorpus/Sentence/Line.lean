import TaggedCorpus.Sentence.Basic

/-!
Sentences written as lines.

The markers of the entities are woven between the tokens. At one position the entities that end
there are closed first, then the empty ones are opened and closed, and the others opened.
-/

namespace TaggedCorpus

namespace Sentence

/-- The markers that close the non-empty spans ending at a position. -/
def closingsAt (spans : List Span) (i : Nat) : List Text :=
  List.replicate (spans.countP fun s => !s.isEmpty && s.stop == i) Marker.closing

/-- The markers that open one span, and close it at once if it is empty. -/
def openingsOf (s : Span) : List Text :=
  Marker.opening s.label :: if s.isEmpty then [Marker.closing] else []

/-- The spans that start at a position, the shorter ones first. -/
def startingAt (spans : List Span) (i : Nat) : List Span :=
  (spans.filter fun s => s.start == i).mergeSort fun a b => a.stop ≤ b.stop

/-- The markers that stand before the token with this index. -/
def marksAt (spans : List Span) (i : Nat) : List Text :=
  closingsAt spans i ++ (startingAt spans i).flatMap openingsOf

/-- Tokens with the markers between them; the first token has index `i`. -/
def weave (spans : List Span) : (i : Nat) → List Text → List Text
  | i, [] => marksAt spans i
  | i, t :: rest => marksAt spans i ++ t :: weave spans (i + 1) rest

/-- The words of the line that the sentence is written as. -/
def words (s : Sentence) : List Text := weave s.spans 0 s.tokens

/-- The line the sentence is written as. -/
def line (s : Sentence) : Text := Text.unwords s.words

end Sentence

/-- The line a sample is written as; a control sample is a blank line. -/
def Sample.line : Sample → Text
  | .control => []
  | .sentence s => s.line

end TaggedCorpus
