import TaggedCorpus.Text.Quoted

/-!
Markers: the words of a line that open or close an entity.

A word that begins like a marker has to be one, and all other words are plain. `Role.ofWord`
reads the role of a word; `Marker.opening` and `Marker.closing` write the markers.
-/

namespace TaggedCorpus

/-- The characters that a label is made of. -/
def isLabelChar (c : Char) : Bool := c != ':' && c != '>' && !Text.isWhiteSpace c

/-- Whether the text can stand as a label in a marker. -/
def isLabel (t : Text) : Bool := !t.isEmpty && t.all isLabelChar

namespace Marker

/-- How every opening marker begins. -/
def openingStem : Text := ['<', 'S', 'T', 'A', 'R', 'T']

/-- How every closing marker begins. -/
def closingStem : Text := ['<', 'E', 'N', 'D']

/-- The marker that closes an entity. -/
def closing : Text := closingStem ++ ['>']

/-- The marker that opens an entity with or without a label. -/
def opening : Option Text → Text
  | none => openingStem ++ ['>']
  | some label => openingStem ++ ':' :: label ++ ['>']

/-- What may follow the stem for a word to be taken for a marker: nothing or a last line feed,
or anything from a colon or a closing angle bracket on. -/
def isMarkerTail : Text → Bool
  | [] => true
  | c :: rest => c == ':' || c == '>' || (c == '\n' && rest.isEmpty)

/-- Whether a word begins like a marker. -/
def resembles (word : Text) : Bool :=
  ((openingStem.isPrefixOf? word).any isMarkerTail) ||
    ((closingStem.isPrefixOf? word).any isMarkerTail)

/-- The label of an opening marker that has one. -/
def labelOf? (word : Text) : Option Text :=
  match (openingStem ++ [':']).isPrefixOf? word with
  | none => none
  | some rest =>
    if rest.getLast? = some '>' && isLabel rest.dropLast then some rest.dropLast else none

end Marker

/-- What a word does on a line. -/
inductive Role
  | plain
  | opening (label : Option Text)
  | closing
  deriving DecidableEq

/-- A word that begins like a marker and is none. -/
structure UnknownMarker where
  word : Text
  deriving DecidableEq

def UnknownMarker.message (e : UnknownMarker) : String := "Unrecognized marker " ++ e.word.quote

/-- The role of a word. -/
def Role.ofWord (word : Text) : Except UnknownMarker Role :=
  if !Marker.resembles word then .ok .plain
  else if word = Marker.closing then .ok .closing
  else if word = Marker.opening none then .ok (.opening none)
  else match Marker.labelOf? word with
    | some label => .ok (.opening (some label))
    | none => .error ⟨word⟩

end TaggedCorpus
