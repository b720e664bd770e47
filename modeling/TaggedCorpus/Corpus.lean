import TaggedCorpus.Settings
import TaggedCorpus.Stream.Reader
import TaggedCorpus.Stream.Storage

/-!
Corpora as sequences of samples: texts held in memory, and files.
-/

namespace TaggedCorpus

namespace Corpus

/-- The lines of a text as a reader. -/
def ofText (t : Text) : Reader := .ofSource (.ofLines t.lines)

/-- A file as a reader, in the encoding that the settings give. -/
def ofFile (s : Storage) (path : Text) (settings : CorpusSettings) : Except Failure Reader :=
  (Source.open s path settings.encoding).map .ofSource

/-- The record that opening a file leaves. -/
def openingEvent (path : Text) (settings : CorpusSettings) : Event :=
  .openingCorpus path settings.encoding.display

end Corpus

/-- What reading a text to its end comes to. -/
def readText (t : Text) : Reader.Consumed Sample := (Corpus.ofText t).drainAndClose Reader.asSample

/-- The samples of a text, one for each line; the first malformed line fails it. -/
def decodeText (t : Text) : Except Failure (List Sample) :=
  match (readText t).failure with
  | some e => .error e
  | none => .ok ((readText t).handed.map (·.item))

end TaggedCorpus
