import TaggedCorpus.Failure

/-!
What a program that works on corpora writes into its journal.
-/

namespace TaggedCorpus

inductive Level
  | debug
  | info
  | warning
  | error

def Level.name : Level → String
  | .debug => "DEBUG"
  | .info => "INFO"
  | .warning => "WARNING"
  | .error => "ERROR"

/-- Something worth a record. -/
inductive Event
  | openingCorpus (path : Text) (encoding : String)
  | blankLine (number : Nat)
  | collected (added total : Nat)
  | training (language : String) (count : Nat) (skipAlphaNumerics : String)
  | readingFailed (count : Nat) (failure : Failure)
  | closingFailed (failure : Failure)
  | consumed (count : Nat)
  | decodeRequested
  | projectRequested
  | corpusRejected (e : MalformedLine)

namespace Event

def level : Event → Level
  | blankLine _ | collected .. => .debug
  | openingCorpus .. | training .. | consumed _ | decodeRequested | projectRequested => .info
  | closingFailed _ | corpusRejected _ => .warning
  | readingFailed .. => .error

/-- The part of the program that writes the record. -/
def channel : Event → String
  | openingCorpus .. | blankLine _ => "nametag.streams"
  | collected .. | training .. | readingFailed .. | closingFailed _ | consumed _ =>
    "nametag.training"
  | decodeRequested | projectRequested | corpusRejected _ => "api"

def message : Event → String
  | openingCorpus path encoding =>
    "Opening corpus " ++ String.ofList path ++ " (" ++ encoding ++ ")"
  | blankLine number => s!"Blank line {number}, emitting reset sample"
  | collected added total => s!"Collected {added} sentences, {total} in total"
  | training language count skip =>
    "Training " ++ language ++ s!" model on {count} samples (skip_alpha_numerics=" ++ skip ++ ")"
  | readingFailed count failure =>
    s!"Reading samples failed after {count} samples: " ++ failure.message
  | closingFailed failure => "Closing the sample stream failed: " ++ failure.message
  | consumed count => s!"Consumed {count} samples"
  | decodeRequested => "Received /decode request"
  | projectRequested => "Received /project request"
  | corpusRejected e => "Rejected corpus: " ++ e.message

end Event

end TaggedCorpus
