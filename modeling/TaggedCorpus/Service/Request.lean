import TaggedCorpus.Service.Numeral
import TaggedCorpus.Value

/-!
Requests to the service, checked field by field.

A request is accepted as a whole or answered with all of its invalid fields, in the order in
which the fields are declared. Whole numbers may also come as truth values, as fractions without
a fractional part, and as texts.
-/

namespace TaggedCorpus.Service

/-- A step on the way to a field. -/
inductive Step
  | field (name : String)
  | index (i : Nat)
  deriving DecidableEq

/-- What is wrong with a field. -/
inductive Problem
  | notObject
  | missing
  | notText
  | notList
  | notNumber
  | numeral (f : NumeralFault)
  deriving DecidableEq

/-- The name under which the service reports a problem. -/
def Problem.name : Problem → String
  | notObject => "model_type"
  | missing => "missing"
  | notText => "string_type"
  | notList => "list_type"
  | notNumber => "int_type"
  | numeral .malformed => "int_parsing"
  | numeral .outOfRange => "int_parsing_size"
  | numeral .fractional => "int_from_float"
  | numeral .infinite => "finite_number"

structure InvalidField where
  problem : Problem
  place : List Step
  deriving DecidableEq

/-- What a value is read as, or the fields of it that are invalid. -/
abbrev Checked (α : Type) := Except (List InvalidField) α

namespace Checked

variable {α β γ : Type}

/-- Both of two checks, with the invalid fields of both. -/
def both (f : α → β → γ) : Checked α → Checked β → Checked γ
  | .ok a, .ok b => .ok (f a b)
  | .ok _, .error e => .error e
  | .error d, .ok _ => .error d
  | .error d, .error e => .error (d ++ e)

/-- A check of what lies one step further in. -/
def under (s : Step) (c : Checked α) : Checked α :=
  c.mapError fun fields => fields.map fun f => { f with place := s :: f.place }

end Checked

def invalid {α : Type} (p : Problem) : Checked α := .error [⟨p, []⟩]

/-- A value read as a whole number. -/
def wholeNumber : Value → Checked Int
  | .int n => .ok n
  | .bool b => .ok (if b then 1 else 0)
  | .float x => (Numeral.ofFloat x).mapError fun f => [⟨.numeral f, []⟩]
  | .text t => (Numeral.read t).mapError fun f => [⟨.numeral f, []⟩]
  | _ => invalid .notNumber

/-! ### Fields -/

def text : Value → Checked Text
  | .text t => .ok t
  | _ => invalid .notText

/-- The items of a list, each checked in its place. -/
def itemsFrom {α : Type} (item : Value → Checked α) : Nat → List Value → Checked (List α)
  | _, [] => .ok []
  | i, v :: rest => Checked.both List.cons ((item v).under (.index i)) (itemsFrom item (i + 1) rest)

def list {α : Type} (item : Value → Checked α) : Value → Checked (List α)
  | .list items => itemsFrom item 0 items
  | _ => invalid .notList

/-- A field that has to be there. -/
def required {α : Type} (entries : List (Value × Value)) (name : String)
    (check : Value → Checked α) : Checked α :=
  Checked.under (.field name) <| match Value.lookup? entries name.toList with
    | some v => check v
    | none => invalid .missing

/-- The fields of an object. -/
def object {α : Type} (fields : List (Value × Value) → Checked α) : Value → Checked α
  | .map entries => fields entries
  | _ => invalid .notObject

/-- Two positions, in whatever order. -/
structure Interval where
  start : Int
  stop : Int
  deriving DecidableEq

def interval : Value → Checked Interval :=
  object fun es =>
    Checked.both Interval.mk (required es "start" wholeNumber) (required es "end" wholeNumber)

/-- A request to decode a corpus. -/
structure DecodeRequest where
  text : Text

def DecodeRequest.ofValue : Value → Checked DecodeRequest :=
  object fun es => (required es "text" Service.text).map DecodeRequest.mk

/-- A request to project tokens into sentences. -/
structure ProjectRequest where
  text : Text
  sentences : List Interval
  tokens : List Interval

def ProjectRequest.ofValue : Value → Checked ProjectRequest :=
  object fun es =>
    Checked.both (fun text (intervals : List Interval × List Interval) =>
        ⟨text, intervals.1, intervals.2⟩)
      (required es "text" Service.text)
      (Checked.both Prod.mk (required es "sentences" (Service.list interval))
        (required es "tokens" (Service.list interval)))

end TaggedCorpus.Service
