import TaggedCorpus.Value

/-!
Settings of the corpus and of the trainer, read from a value or a document.

A section or key that is missing leaves its default. An encoding or language may be any value:
what uses it decides whether it will do.
-/

namespace TaggedCorpus

structure CorpusSettings where
  encoding : Value := .text "utf-8".toList

structure TrainerSettings where
  language : Value := .text "en".toList
  skipAlphaNumerics : Value := .bool false

structure Settings where
  corpus : CorpusSettings := {}
  trainer : TrainerSettings := {}

/-- A value that stands where a mapping has to. -/
structure NotMapping where
  kind : String
  deriving DecidableEq

def NotMapping.message (e : NotMapping) : String :=
  "'" ++ e.kind ++ "' object has no attribute 'get'"

/-- What settings are read from: things that have a kind, may count as absent, have entries if
they are mappings, and stand for values. -/
structure View (α : Type) where
  kind : α → String
  isPresent : α → Bool
  entries? : α → Option (List (Value × α))
  value : α → Value

/-- Values as things that settings are read from. -/
def Value.view : View Value where
  kind := Value.kind
  isPresent := Value.isPresent
  entries?
    | .map entries => some entries
    | _ => none
  value := id

namespace Settings

/-- The texts that switch a flag on. -/
def affirmatives : List Text := ["1".toList, "true".toList, "yes".toList, "on".toList]

/-- The flag a value stands for. A text has to be one of the affirmatives, up to case and blanks
around it. -/
def flag : Value → Bool
  | .text t => affirmatives.contains ((Text.trimWhere Text.isBlank t).map Char.toLower)
  | v => v.isPresent

variable {α : Type} (view : View α)

/-- The entries of a mapping. What is missing or counts as absent has none. -/
def entries (a? : Option α) : Except NotMapping (List (Value × α)) :=
  match a? with
  | none => .ok []
  | some a => match view.entries? a with
    | some entries => .ok entries
    | none => if view.isPresent a then .error ⟨view.kind a⟩ else .ok []

/-- The value of a key. -/
def field? (entries : List (Value × α)) (key : String) : Option Value :=
  (Value.lookup? entries key.toList).map view.value

/-- The settings in a thing. Of two sections that are no mappings the trainer's is reported. -/
def read (a : α) : Except NotMapping Settings := do
  let top ← entries view (some a)
  let trainer ← entries view (Value.lookup? top "trainer".toList)
  let corpus ← entries view (Value.lookup? top "corpus".toList)
  return {
    corpus.encoding := (field? view corpus "encoding").getD ({} : CorpusSettings).encoding
    trainer := {
      language := (field? view trainer "language").getD ({} : TrainerSettings).language
      skipAlphaNumerics := .bool (flag ((field? view trainer "skip_alpha_numerics").getD .null)) } }

/-- The settings in a value. -/
def ofValue (v : Value) : Except NotMapping Settings := read Value.view v

end Settings

end TaggedCorpus
