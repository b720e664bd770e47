import TaggedCorpus.Encoding.Basic
import TaggedCorpus.Encoding.Name
import TaggedCorpus.Sentence.Decoder
import TaggedCorpus.Value

/-!
What can go wrong while a corpus is read, fed to a consumer or handed to a trainer.

Callers tell failures apart by what they are about: a fault of the corpus, a fault of the device
it comes from, or both.
-/

namespace TaggedCorpus

/-- Why a path could not be opened. -/
inductive OpenFault
  | notFound (path : Text)
  | notDirectory (path : Text)
  | isDirectory (path : Text)
  | nameTooLong (path : Text)
  deriving DecidableEq

namespace OpenFault

def path : OpenFault → Text
  | notFound p | notDirectory p | isDirectory p | nameTooLong p => p

/-- The message of the file system. -/
def systemMessage (f : OpenFault) : String :=
  let text := match f with
    | notFound _ => "[Errno 2] No such file or directory: "
    | notDirectory _ => "[Errno 20] Not a directory: "
    | isDirectory _ => "[Errno 21] Is a directory: "
    | nameTooLong _ => "[Errno 36] File name too long: "
  text ++ f.path.quote

def message (f : OpenFault) : String :=
  "Cannot open " ++ String.ofList f.path ++ ": " ++ f.systemMessage

end OpenFault

/-- A failure of a source, a stream, a consumer or a trainer. Some come from outside and bring
their own message. -/
inductive Failure
  | malformed (e : MalformedLine)
  | cannotOpen (f : OpenFault)
  | readFailed (delivered : Nat) (cause : Failure)
  | stream (message : String)
  | corpus (message : String)
  | device (message : String)
  | undecodable (f : DecodeFault)
  | encoding (f : EncodingFault)
  | encodingKind (kind : String)
  | nulInEncoding
  | nulInPath
  | closedText
  | closedFile
  | handedOver
  | rejected (message : String)
  | broken (message : String)
  deriving DecidableEq

namespace Failure

def message : Failure → String
  | malformed e => e.message
  | cannotOpen f => f.message
  | readFailed delivered cause =>
    s!"Failed reading input after {delivered} delivered lines: " ++ cause.message
  | stream m | corpus m | device m | rejected m | broken m => m
  | undecodable f => f.message
  | encoding f => f.message
  | encodingKind kind => "open() argument 'encoding' must be str or None, not " ++ kind
  | nulInEncoding => "embedded null character"
  | nulInPath => "embedded null byte"
  | closedText => "I/O operation on closed file"
  | closedFile => "I/O operation on closed file."
  | handedOver => "Samples were already handed to the trainer"

/-- Whether the failure is about the device a corpus comes from. -/
def isDeviceFault : Failure → Bool
  | cannotOpen _ | readFailed .. | stream _ | device _ => true
  | _ => false

/-- Whether the failure is about the corpus. -/
def isCorpusFault : Failure → Bool
  | malformed _ | cannotOpen _ | readFailed .. | stream _ | corpus _ => true
  | _ => false

/-- Whether a source that fails so has failed to produce its next line. Other failures of a
source are not about reading and are passed on as they are. -/
def isReadFault : Failure → Bool
  | undecodable (.bytes _) => true
  | f => f.isDeviceFault

end Failure

end TaggedCorpus
