import TaggedCorpus.Sentence.Line

/-!
Lines read as sentences.

The decoder takes the words of a line one by one. It keeps the plain words as tokens, the
entities that are closed, and the one that is open. A line is malformed at the first word that
cannot follow, or at its end if an entity is still open or two entities are the same.
-/

namespace TaggedCorpus

/-- Why a line is no sentence. -/
inductive Reason
  | unknownMarker (word : Text)
  | nestedOpening (word : Text) (token : Nat)
  | unmatchedClosing (token : Nat)
  | neverClosed (token : Nat)
  | sentence (fault : SentenceFault)
  | reported (message : String)
  deriving DecidableEq

def Reason.message : Reason → String
  | .unknownMarker word => UnknownMarker.message ⟨word⟩
  | .nestedOpening word token => "Nested start marker " ++ word.quote ++ s!" at token {token}"
  | .unmatchedClosing token => s!"End marker without start marker at token {token}"
  | .neverClosed token => s!"Start marker at token {token} is never closed"
  | .sentence fault => fault.message
  | .reported message => message

/-- A line that is no sentence, with its number if it is known. -/
structure MalformedLine where
  reason : Reason
  line : Text
  lineNumber : Option Int := none
  deriving DecidableEq

namespace MalformedLine

def message (e : MalformedLine) : String :=
  let place := match e.lineNumber with
    | none => ""
    | some n => s!"line {n}: "
  place ++ e.reason.message ++ ": " ++ e.line.quote

/-- The same fault with a line number. -/
def atLine (e : MalformedLine) (n : Int) : MalformedLine := { e with lineNumber := some n }

end MalformedLine

/-- An entity that is not closed yet: the number of tokens before it, and its label. -/
structure Opening where
  token : Nat
  label : Option Text
  deriving DecidableEq

/-- What is known of a line after some of its words. -/
structure Decoder where
  tokens : List Text := []
  spans : List Span := []
  opened : Option Opening := none
  opened_le : ∀ o ∈ opened, o.token ≤ tokens.length := by simp

namespace Decoder

def pushToken (d : Decoder) (word : Text) : Decoder where
  tokens := d.tokens ++ [word]
  spans := d.spans
  opened := d.opened
  opened_le o h := by
    have := d.opened_le o h
    simp only [List.length_append, List.length_cons, List.length_nil]
    omega

def openEntity (d : Decoder) (label : Option Text) : Decoder where
  tokens := d.tokens
  spans := d.spans
  opened := some ⟨d.tokens.length, label⟩
  opened_le o h := by
    cases h
    exact Nat.le_refl _

def closeEntity (d : Decoder) (o : Opening) (h : o ∈ d.opened) : Decoder where
  tokens := d.tokens
  spans := d.spans ++ [⟨o.token, d.tokens.length, o.label, d.opened_le o h⟩]

/-- Takes one more word. -/
def step (d : Decoder) (word : Text) : Except Reason Decoder :=
  match Role.ofWord word with
  | .error e => .error (.unknownMarker e.word)
  | .ok .plain => .ok (d.pushToken word)
  | .ok (.opening label) =>
    if d.opened.isSome then .error (.nestedOpening word d.tokens.length)
    else .ok (d.openEntity label)
  | .ok .closing =>
    match h : d.opened with
    | none => .error (.unmatchedClosing d.tokens.length)
    | some o => .ok (d.closeEntity o (by simp [h]))

/-- Takes words in order, up to the first that cannot follow. -/
def run (d : Decoder) (words : List Text) : Except Reason Decoder := words.foldlM step d

@[simp] theorem run_nil (d : Decoder) : d.run [] = .ok d := rfl

theorem run_cons (d : Decoder) (w : Text) (ws : List Text) :
    d.run (w :: ws) = (d.step w).bind fun e => e.run ws := rfl

theorem run_append (d : Decoder) (us ws : List Text) :
    d.run (us ++ ws) = (d.run us).bind fun e => e.run ws := by
  simp only [run, List.foldlM_append]
  rfl

/-- The sentence that the words make, at the end of the line. -/
def finish (d : Decoder) : Except Reason Sentence :=
  match d.opened with
  | some o => .error (.neverClosed o.token)
  | none => (Sentence.of? d.tokens d.spans).mapError .sentence

end Decoder

/-- The sentence that these words make. -/
def decodeWords (words : List Text) : Except Reason Sentence :=
  (Decoder.run {} words).bind Decoder.finish

/-- The sentence a line stands for. -/
def decodeLine (line : Text) : Except MalformedLine Sentence :=
  (decodeWords line.words).mapError fun reason => { reason, line }

/-- The sample a line stands for: the control sample for a blank line, else its sentence. -/
def Sample.ofLine (line : Text) : Except MalformedLine Sample :=
  if line.isBlankLine then .ok .control else (decodeLine line).map .sentence

end TaggedCorpus
