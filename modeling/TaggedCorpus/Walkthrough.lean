import TaggedCorpus.Collector
import TaggedCorpus.Corpus
import TaggedCorpus.Feed
import TaggedCorpus.SettingsFile

/-!
A walk through the library for the command line.

With a path it prints the samples of that corpus. Without one it decodes a small text, writes it
back, and collects a small document for a trainer that prints what it is given.
-/

namespace TaggedCorpus.Walkthrough

/-- Why the walk stops early. -/
inductive Fault
  | settings (f : SettingsFault)
  | failure (f : Failure)

def Fault.message : Fault → String
  | .settings f => f.message
  | .failure f => f.message

/-- What was printed, and why it stopped if it did. -/
structure Transcript where
  output : String
  fault : Option Fault := none

/-- Each line with its line feed. -/
def printed (lines : List String) : String := String.join (lines.map (· ++ "\n"))

/-! ### Printing -/

def spanLine (s : Sentence) (span : Span) : String :=
  let label := match span.label with
    | none => "None"
    | some l => String.ofList l
  "  " ++ label ++ s!" [{span.start}:{span.stop}] '" ++
    String.ofList (Text.unwords (s.coveredTokens span)) ++ "'"

/-- The tokens of a sample, and a line for each of its entities. -/
def sampleLines : Sample → List String
  | .control => ["-- reset adaptive state --"]
  | .sentence s => String.ofList (Text.unwords s.tokens) :: s.spans.map (spanLine s)

def tokenizedLine (t : TokenizedText) : String :=
  "  " ++ t.text.quote ++ " -> [" ++ ", ".intercalate (t.tokens.map Text.quote) ++ "]"

/-- What the printing trainer makes of a batch. -/
def batchLines (b : Batch) : List String :=
  ("training " ++ b.settings.language.display ++ s!" model on {b.texts.length} samples " ++
    "(skip_alpha_numerics=" ++ b.settings.skipAlphaNumerics.display ++ ")") ::
    b.texts.map tokenizedLine

/-! ### The two walks -/

/-- Prints the samples of a corpus and their number. -/
def ofFile (s : Storage) (path : Text) (settings : CorpusSettings) : Transcript :=
  match Corpus.ofFile s path settings with
  | .error f => { output := "", fault := some (.failure f) }
  | .ok reader =>
    let fed := reader.feed Reader.asSample Reader.acceptAll
    let samples := printed (fed.handed.flatMap fun d => sampleLines d.item)
    match fed.result with
    | .ok count => { output := samples ++ printed ["", s!"{count} samples"] }
    | .error f => { output := samples, fault := some (.failure f) }

/-- The small text: two sentences with a blank line between them. -/
def sampleText : Text := (printed [
  "<START:person> Barack Obama <END> said <START:date> Wednesday <END> .",
  "",
  "Bruno <START:person> Schulz <END> lives here"]).toList

/-- The small document, its sentences and its tokens. -/
def sampleDocument : Text := "Hello world. Bye now.".toList

def sampleSentences : List Span := [{ start := 0, stop := 12 }, { start := 13, stop := 21 }]

def sampleTokens : List Span := [{ start := 0, stop := 5 }, { start := 6, stop := 11 },
  { start := 11, stop := 12 }, { start := 13, stop := 16 }, { start := 17, stop := 20 },
  { start := 20, stop := 21 }]

/-- Decodes the small text, writes it back, and has the small document collected. -/
def ofSamples (settings : TrainerSettings) : Transcript :=
  match decodeText sampleText with
  | .error f => { output := "", fault := some (.failure f) }
  | .ok samples =>
    let requests : List (Request Unit) :=
      [.add sampleDocument sampleSentences sampleTokens, .train [] false (.ok ())]
    let batches := (Collector.answerAll { settings } false requests).batches
    { output := printed (
        ["=== SAMPLES ==="] ++ samples.flatMap sampleLines ++
        ["", "=== ROUND TRIP ==="] ++ samples.map (fun s => String.ofList s.line) ++
        ["", "=== TOKEN SAMPLES ==="] ++ batches.flatMap batchLines) }

/-- The walk with these arguments, of which only the first counts. -/
def run (s : Storage) (args : List Text) : Transcript :=
  match Settings.load s with
  | .error f => { output := "", fault := some (.settings f) }
  | .ok settings => match args with
    | path :: _ => ofFile s path settings.corpus
    | [] => ofSamples settings.trainer

end TaggedCorpus.Walkthrough
