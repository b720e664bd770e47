import TaggedCorpus.Stream.Reader

/-!
Feeding the samples of a reader, or its lines, to a consumer.

The reader is closed in any case. A failure to close that is about the corpus or its device is
only recorded; any other one takes the place of the failure that ended the reading.
-/

namespace TaggedCorpus.Reader

/-- How feeding went: the number of items the consumer took or what failed, the items it was
handed, the reader afterwards, and the records. -/
structure Fed (α : Type) where
  result : Except Failure Nat
  handed : List (Delivery α)
  reader : Reader
  journal : List Event

/-- The records of a failure that ended the reading. -/
def readingEvents (accepted : Nat) : Option Failure → List Event
  | some e => if e.isCorpusFault then [.readingFailed accepted e] else []
  | none => []

/-- Whether a failure to close is only recorded. -/
def isMildClosing (e : Failure) : Bool := e.isDeviceFault || e.isCorpusFault

/-- The outcome of reading and closing, with the records of both. -/
def feedResult (accepted : Nat) (reading : Option Failure) (closing : Except Failure Unit) :
    Except Failure Nat × List Event :=
  let settled : Except Failure Nat × List Event := match reading with
    | some e => (.error e, [])
    | none => (.ok accepted, [.consumed accepted])
  match closing with
  | .ok () => settled
  | .error e =>
    if isMildClosing e then (settled.1, .closingFailed e :: settled.2) else (.error e, [])

/-- Hands all items to the consumer and closes the reader. -/
def feed {α : Type} (format : LineFormat α) (consumer : Consumer α) (r : Reader) : Fed α :=
  let c := r.consume format consumer [] 0
  let (closing, reader) := c.reader.close
  let (result, events) := feedResult c.accepted c.failure closing
  { result
    handed := c.handed
    reader
    journal := format.journal c.handed ++ readingEvents c.accepted c.failure ++ events }

end TaggedCorpus.Reader
