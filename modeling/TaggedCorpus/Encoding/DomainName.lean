import TaggedCorpus.Encoding.Punycode

/-!
Domain names: ASCII, cut at points into labels, of which those with a certain beginning are
Punycode.

All labels but the last one are read first, and that one waits. What is left at the end is read
there, again and again until nothing is left.
-/

namespace TaggedCorpus.DomainName

/-- The beginning of a label in Punycode. -/
def mark : Text := "xn--".toList

/-- What a label stands for. -/
def label (t : Text) : Except DecodeFault Text :=
  match mark.isPrefixOf? t with
  | none => .ok t
  | some rest =>
    let d := Punycode.decode (rest.map fun c => UInt8.ofNat c.toNat)
    match d.ending with
    | .broken (.punycode f) => .error (.label f)
    | .broken f => .error f
    | _ => .ok d.text

/-- The labels of a text that are read now, and whether a point follows them. -/
def labels (atEnd : Bool) (t : Text) : List Text × Bool :=
  if t.isEmpty then ([], false)
  else
    let all := t.splitOn '.'
    if all.getLast?.any List.isEmpty then (all.dropLast, true)
    else if atEnd then (all, false)
    else (all.dropLast, 1 < all.length)

/-- How much is read with these labels. A point after empty labels at the start is not counted. -/
def readLength (labels : List Text) (pointed : Bool) : Nat :=
  labels.foldl (fun n l => (if n == 0 then 0 else n + 1) + l.length) 0 + (if pointed then 1 else 0)

/-- What the labels stand for that are read now, and what is left. -/
def read (atEnd : Bool) (t : Text) : Except DecodeFault (Text × Text) := do
  let (ls, pointed) := labels atEnd t
  let names ← ls.mapM label
  let name := List.intercalate ['.'] names ++ (if pointed then ['.'] else [])
  return (name, t.drop (readLength ls pointed))

/-- Reads what is left of a text at its end. -/
def readRest : (fuel : Nat) → Text → Content
  | 0, _ => .done
  | fuel + 1, t =>
    if t.isEmpty then .done
    else match read true t with
      | .error f => .stuck f
      | .ok (name, rest) => (readRest fuel rest).append name

def decode (bytes : List UInt8) : Decoded :=
  let d := SingleByte.decodeAscii bytes
  match d.ending with
  | .complete => match read false d.text with
    | .error f => ⟨[], .broken f⟩
    | .ok (name, rest) => ⟨name, .cutOff rest.length (readRest rest.length rest)⟩
  | _ => d

def codec : Codec Waiting := .buffered decode

end TaggedCorpus.DomainName
