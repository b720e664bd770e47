import TaggedCorpus.Settings
import TaggedCorpus.Stream.Storage
import TaggedCorpus.Yaml.Document

/-!
Settings read from a YAML file.
-/

namespace TaggedCorpus

/-- Why no settings could be read. -/
inductive SettingsFault
  | cannotOpen (f : OpenFault)
  | undecodable (f : DecodeFault)
  | yaml (f : Yaml.Fault)
  | notMapping (e : NotMapping)

def SettingsFault.message : SettingsFault → String
  | .cannotOpen f => f.systemMessage
  | .undecodable f => f.message
  | .yaml f => f.message
  | .notMapping e => e.message

namespace Settings

/-- Where settings are kept. -/
def path : Text := "configs/nametag.yaml".toList

/-- The settings in a YAML text; an empty one leaves all defaults. -/
def ofYaml (t : Text) : Except SettingsFault Settings :=
  match Yaml.Document.parse? t with
  | .error f => .error (.yaml f)
  | .ok none => .ok {}
  | .ok (some document) => (read document.view document.root).mapError .notMapping

/-- The settings in the bytes of a file, which is in UTF-8. -/
def ofBytes (bytes : List UInt8) : Except SettingsFault Settings :=
  let c := Encoding.utf8.decode bytes
  match c.ending with
  | .complete => ofYaml c.text.withLineFeeds
  | .broken f _ _ | .cutOff f => .error (.undecodable f)

/-- Reads the settings where they are kept. -/
def load (s : Storage) : Except SettingsFault Settings :=
  match s.read path with
  | .error f => .error (.cannotOpen f)
  | .ok bytes => ofBytes bytes

end Settings

end TaggedCorpus
