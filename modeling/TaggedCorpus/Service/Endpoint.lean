import TaggedCorpus.Corpus
import TaggedCorpus.Projection
import TaggedCorpus.Service.Request

/-!
The two endpoints of the service: one decodes a corpus, one projects tokens into sentences.

A corpus that is malformed and intervals that do not fit are answered with what is wrong with
them. Any other failure would leave the endpoint.
-/

namespace TaggedCorpus.Service

/-- An endpoint answers, or reports why what was sent cannot be processed. -/
inductive Reply (α δ : Type)
  | answered (a : α)
  | unprocessable (detail : δ)

/-- The status code of a reply. -/
def Reply.status {α δ : Type} : Reply α δ → Nat
  | .answered _ => 200
  | .unprocessable _ => 422

/-- One sample in an answer, with the line it is written as. -/
structure SampleRecord where
  tokens : List Text
  spans : List Span
  resetAdaptiveState : Bool
  line : Text

def SampleRecord.ofSample (s : Sample) : SampleRecord :=
  ⟨s.tokens, s.spans, s.isControl, s.line⟩

/-- Answers with the samples of a corpus, or with its first malformed line. -/
def decode (q : DecodeRequest) : Except Failure (Reply (List SampleRecord) MalformedLine) :=
  match decodeText q.text with
  | .ok samples => .ok (.answered (samples.map .ofSample))
  | .error (.malformed e) => .ok (.unprocessable e)
  | .error e => .error e

/-- The records that decoding leaves. -/
def decodeEvents (q : DecodeRequest) : List Event :=
  let c := readText q.text
  .decodeRequested :: Reader.asSample.journal c.handed ++ match c.failure with
    | some (.malformed e) => [.corpusRejected e]
    | _ => []

/-- What makes a request to project unprocessable. -/
inductive ProjectFault
  | span (f : SpanFault)
  | projection (f : ProjectionFault)
  deriving DecidableEq

def ProjectFault.message : ProjectFault → String
  | span f => f.message
  | projection f => f.message

/-- The spans of intervals, up to the first that bounds none. -/
def spansOf (intervals : List Interval) : Except ProjectFault (List Span) :=
  intervals.mapM fun i => (Span.of? i.start i.stop none).mapError .span

/-- The sentences of a request with their tokens. Sentence intervals are looked at before token
intervals, and both before the text. -/
def projected (q : ProjectRequest) : Except ProjectFault (List TokenizedText) := do
  let sentences ← spansOf q.sentences
  let tokens ← spansOf q.tokens
  (projectDocument q.text sentences tokens).mapError .projection

/-- Answers with the sentences of a document, or with the first interval that does not fit. -/
def project (q : ProjectRequest) : Reply (List TokenizedText) ProjectFault :=
  match projected q with
  | .ok texts => .answered texts
  | .error f => .unprocessable f

/-- One sentence in an answer, with the texts of its tokens. -/
structure SentenceRecord where
  text : Text
  spans : List Span
  tokens : List Text

/-- The record of a sentence. The text of each token is read off the sentence once more. -/
def SentenceRecord.ofText (t : TokenizedText) : Except CoverFault SentenceRecord :=
  (t.spans.mapM (Span.coveredText · t.text)).map fun tokens => ⟨t.text, t.spans, tokens⟩

/-- Answers with the records of the sentences of a document. They are written when nothing can be
reported any more, so a token without a text would leave the endpoint as a failure. -/
def projectRecords (q : ProjectRequest) :
    Except CoverFault (Reply (List SentenceRecord) ProjectFault) :=
  match project q with
  | .answered texts => (texts.mapM SentenceRecord.ofText).map .answered
  | .unprocessable f => .ok (.unprocessable f)

/-- The records that projecting leaves. -/
def projectEvents : List Event := [.projectRequested]

end TaggedCorpus.Service
