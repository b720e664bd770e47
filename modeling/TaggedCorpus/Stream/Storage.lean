import TaggedCorpus.Encoding.Decode
import TaggedCorpus.Stream.Source

/-!
Files by path, and files opened as sources of lines.
-/

namespace TaggedCorpus

/-- What reading the file at a path comes to. -/
structure Storage where
  read : Text → Except OpenFault (List UInt8)

/-- The encoding a setting asks for; nothing asks for UTF-8. -/
def Encoding.ofValue : Value → Except Failure Encoding
  | .text name => (Encoding.ofName name).mapError .encoding
  | .null => .ok .utf8
  | v => .error (.encodingKind v.kind)

/-- What is wrong with a setting or path whatever is stored. -/
def Source.unopenable? (path : Text) : Value → Option Failure
  | .text name =>
    if name.contains '\x00' then some .nulInEncoding
    else if path.contains '\x00' then some .nulInPath
    else none
  | .null => if path.contains '\x00' then some .nulInPath else none
  | v => some (.encodingKind v.kind)

/-- Opens a file as a source of lines. A setting that cannot name an encoding is reported before
the file is looked for, one that names none after it was found. -/
def Source.open (s : Storage) (path : Text) (encoding : Value) : Except Failure Source := do
  if let some e := Source.unopenable? path encoding then throw e
  let bytes ← (s.read path).mapError .cannotOpen
  let encoding ← Encoding.ofValue encoding
  return .ofContent (encoding.decode bytes)

end TaggedCorpus
