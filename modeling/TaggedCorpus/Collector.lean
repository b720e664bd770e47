import TaggedCorpus.Journal
import TaggedCorpus.Projection
import TaggedCorpus.Settings

/-!
Collecting the sentences of documents for a trainer.

A collector holds what it has collected until it hands it over, which it does once. The trainer
gets everything in the order in which it was collected, and from then on the collector refuses
all requests, also those of the trainer.
-/

namespace TaggedCorpus

/-- The settings for the trainer, and what was collected; nothing once it was handed over. -/
structure Collector where
  settings : TrainerSettings := {}
  held : Option (List TokenizedText) := some []

/-- What a trainer is given. -/
structure Batch where
  texts : List TokenizedText
  settings : TrainerSettings

/-- What a request comes to. -/
inductive Response (α : Type)
  | added (count : Nat)
  | trained (result : α)

/-- Why a request fails. -/
inductive RequestFault
  | projection (f : ProjectionFault)
  | failure (f : Failure)

mutual

/-- What is asked of a collector: to add a document, or to hand over to a trainer, which works on
what it is given. -/
inductive Request (α : Type)
  | add (text : Text) (sentences tokens : List Span)
  | handOver (trainer : Batch → Training α)

/-- The work of a trainer. In the end it returns or fails; before that it may look how many
sentences the collector holds, or make requests of it, and go on by the answers. -/
inductive Training (α : Type)
  | returns (result : α)
  | fails (f : RequestFault)
  | looks (next : Nat → Training α)
  | asks (q : Request α) (next : Except RequestFault (Response α) → Training α)

end

/-- A trainer that makes these requests and then returns or fails. The first failure of a request
ends it unless it catches failures. -/
def Training.script {α : Type} (catches : Bool) (ending : Except Failure α) :
    List (Request α) → Training α
  | [] => match ending with
    | .ok a => .returns a
    | .error e => .fails (.failure e)
  | q :: rest => .asks q fun
    | .ok _ => script catches ending rest
    | .error f => if catches then script catches ending rest else .fails f

/-- The request to hand over to a trainer that does the same whatever it is given. -/
def Request.train {α : Type} (requests : List (Request α)) (catches : Bool)
    (ending : Except Failure α) : Request α :=
  .handOver fun _ => Training.script catches ending requests

/-- The response to requests, the collector afterwards, what trainers were given, and the
records. -/
structure Outcome (β : Type) where
  result : Except RequestFault β
  collector : Collector
  batches : List Batch := []
  journal : List Event := []

/-- An outcome after an earlier one, with what trainers were given and recorded in both. -/
def Outcome.after {β γ : Type} (next : Outcome γ) (o : Outcome β) : Outcome γ :=
  { next with
    batches := o.batches ++ next.batches
    journal := o.journal ++ next.journal }

namespace Collector

variable {α : Type}

/-- How many sentences the collector holds. -/
def size (c : Collector) : Nat := (c.held.getD []).length

/-- The failure of every request after the handing over. -/
def refuse {β : Type} (c : Collector) : Outcome β :=
  { result := .error (.failure .handedOver), collector := c }

/-- Adds the sentences of a document, or none of them. -/
def add (c : Collector) (text : Text) (sentences tokens : List Span) : Outcome (Response α) :=
  match c.held with
  | none => c.refuse
  | some held =>
    match projectDocument text sentences tokens with
    | .error f => { result := .error (.projection f), collector := c }
    | .ok texts =>
      { result := .ok (.added texts.length)
        collector := { c with held := some (held ++ texts) }
        journal := [.collected texts.length (held ++ texts).length] }

/-- The record of a handing over. -/
def trainingEvent (b : Batch) : Event :=
  .training b.settings.language.display b.texts.length b.settings.skipAlphaNumerics.display

mutual

/-- Answers one request. -/
def answer (c : Collector) : Request α → Outcome (Response α)
  | .add text sentences tokens => c.add text sentences tokens
  | .handOver trainer =>
    match c.held with
    | none => c.refuse
    | some held =>
      let batch : Batch := ⟨held, c.settings⟩
      let o := serve { c with held := none } (trainer batch)
      { result := o.result.map .trained
        collector := o.collector
        batches := batch :: o.batches
        journal := trainingEvent batch :: o.journal }

/-- Answers a trainer until its work ends. -/
def serve (c : Collector) : Training α → Outcome α
  | .returns a => { result := .ok a, collector := c }
  | .fails f => { result := .error f, collector := c }
  | .looks next => serve c (next c.size)
  | .asks q next =>
    let o := answer c q
    (serve o.collector (next o.result)).after o

end

/-- Answers requests one after the other. The first failure ends this unless failures are
caught. -/
def answerAll (c : Collector) (catches : Bool) : List (Request α) → Outcome Unit
  | [] => { result := .ok (), collector := c }
  | q :: rest =>
    let o := answer c q
    match o.result with
    | .ok _ => (answerAll o.collector catches rest).after o
    | .error e =>
      if catches then (answerAll o.collector catches rest).after o
      else { o with result := .error e }

end Collector

end TaggedCorpus
