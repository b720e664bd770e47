import TaggedCorpus.Encoding.Base64
import TaggedCorpus.Text.LowerCase
import TaggedCorpus.Yaml.Tag

/-!
What scalars of each type stand for.

A node may be marked with a type that its text does not fit; then it stands for nothing.
-/

namespace TaggedCorpus.Yaml

/-- A number's text without the underscores that group its digits. -/
def ungrouped (t : Text) : Text := t.filter (· != '_')

/-- The sign of a number and the rest of its text, which may not be empty. -/
def signed (t : Text) : Except ScalarFault (Bool × Text) :=
  if t.isEmpty then .error .noDigits else .ok (Number.splitSign t)

/-- A whole number without sign; its first characters tell the base. -/
def unsignedWhole (t : Text) : Except ScalarFault Int :=
  let read (base : Nat) (t : Text) : Except ScalarFault Int :=
    (Number.whole base t).mapError .number
  match t with
  | [] => .error .noDigits
  | '0' :: 'b' :: rest => read 2 rest
  | '0' :: 'x' :: rest => read 16 rest
  | '0' :: _ => read 8 t
  | _ => ((t.splitOn ':').mapM (read 10)).map fun places => places.foldl (fun n p => n * 60 + p) 0

def wholeNumber (t : Text) : Except ScalarFault Int := do
  let (negative, t) ← signed (ungrouped t)
  let n ← unsignedWhole t
  return if negative then -n else n

/-- A sum of places in base sixty, the last of which counts as so many; further places count
sixty times as much. -/
def sumPlaces (unit : Nat) (sum : Float) : List Float → Except ScalarFault Float
  | [] => .ok sum
  | x :: rest =>
    let factor := Number.nearest unit 0
    if factor.isInf then .error .tooLarge else sumPlaces (unit * 60) (sum + x * factor) rest

def unsignedFloat (t : Text) : Except ScalarFault Float := do
  if t == ".inf".toList then return Number.infinity
  if t == ".nan".toList then return Number.notANumber
  let places ← ((t.splitOn ':').mapM Number.decimal).mapError .number
  match places with
  | [x] => return x
  | places => sumPlaces 1 0.0 places.reverse

def floatNumber (t : Text) : Except ScalarFault Float := do
  let (negative, t) ← signed (Text.lower (ungrouped t))
  let x ← unsignedFloat t
  return if negative then -x else x

def truth (t : Text) : Except ScalarFault Bool :=
  let word := Text.lower t
  if Tag.truths.contains (String.ofList word) then .ok true
  else if Tag.falsehoods.contains (String.ofList word) then .ok false
  else .error (.notTruth word)

def timestamp (t : Text) : Except ScalarFault Value :=
  let t := if t.getLast? == some '\n' then t.dropLast else t
  match Timestamp.parse? t with
  | some s => s.value.mapError .calendar
  | none => .error .notMoment

def binary (t : Text) : Except Fault Value :=
  if t.all fun c => c.toNat < 0x80 then
    match Base64.decode t with
    | some bytes => .ok (.bytes bytes)
    | none => .error .malformed
  else .error .malformed

/-- What a text of a type stands for; types of lists and mappings have no text. -/
def Tag.valueOf (tag : Tag) (t : Text) : Except Fault Value :=
  match tag with
  | null => .ok .null
  | text => .ok (.text t)
  | bool => ((truth t).mapError .scalar).map .bool
  | int => ((wholeNumber t).mapError .scalar).map .int
  | float => ((floatNumber t).mapError .scalar).map .float
  | moment => (timestamp t).mapError .scalar
  | bytes => binary t
  | list | pairs | map | set | merge | default | other => .error .malformed

end TaggedCorpus.Yaml
