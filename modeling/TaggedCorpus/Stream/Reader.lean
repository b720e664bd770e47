import TaggedCorpus.Journal
import TaggedCorpus.Stream.Source

/-!
Readers: single-pass streams over a source of lines.

A reader counts the lines it was given and owns its source: the first closing closes the source,
and after it nothing is pulled any more. What a line is read as is a parameter, so a reader of
lines and a reader of samples are one thing.
-/

namespace TaggedCorpus

/-- A source being read: how many lines it has delivered, and whether the reader was closed. -/
structure Reader where
  source : Source
  lineNumber : Nat := 0
  closed : Bool := false
  deriving DecidableEq

/-- An item that was read from the line with this number. -/
structure Delivery (α : Type) where
  lineNumber : Nat
  item : α
  deriving DecidableEq

/-- How a line with its number is read, and the records that an item leaves. -/
structure LineFormat (α : Type) where
  parse : Nat → Text → Except Failure α
  events : Delivery α → List Event := fun _ => []

/-- The records that reading these items leaves. -/
def LineFormat.journal {α : Type} (format : LineFormat α) (handed : List (Delivery α)) :
    List Event := handed.flatMap format.events

namespace Reader

variable {α : Type}

def ofSource (source : Source) : Reader where
  source := source

/-- Takes the next line without its terminator; nothing at the end of the source and once the
reader is closed. A source that fails to produce a line fails the reading, and its other
failures pass unchanged. -/
def readLine (r : Reader) : Except Failure (Option Text) × Reader :=
  if r.closed then (.ok none, r)
  else match r.source.pull with
    | (.ended, source) => (.ok none, { r with source })
    | (.failed e, source) =>
      (.error (if e.isReadFault then .readFailed r.lineNumber e else e), { r with source })
    | (.line t, source) => (.ok (some t.chomp), { r with source, lineNumber := r.lineNumber + 1 })

/-- Takes the next line and reads it. A line that cannot be read is taken nevertheless. -/
def read (format : LineFormat α) (r : Reader) : Except Failure (Option α) × Reader :=
  match r.readLine with
  | (.error e, r) => (.error e, r)
  | (.ok none, r) => (.ok none, r)
  | (.ok (some line), r) => ((format.parse r.lineNumber line).map some, r)

/-- Marks the reader as closed and closes its source; only the first closing does anything. -/
def close (r : Reader) : Except Failure Unit × Reader :=
  if r.closed then (.ok (), r)
  else
    let (result, source) := r.source.close
    (result, { r with source, closed := true })

/-- Closes the source behind the reader's back. -/
def closeSource (r : Reader) : Except Failure Unit × Reader :=
  let (result, source) := r.source.close
  (result, { r with source })

/-! ### Reading to the end -/

/-- What a consumer does with an item: takes it, refuses it, or closes the reader and goes by
what the closing came to. -/
inductive Reaction
  | accept
  | refuse (e : Failure)
  | closeThen (answer : Except Failure Unit → Except Failure Unit)

namespace Reaction

/-- Closes the reader and takes the item, unless the closing fails. -/
def close : Reaction := .closeThen id

/-- What a call with this reaction comes to, and the reader as the call leaves it. -/
def on (r : Reader) : Reaction → Except Failure Unit × Reader
  | accept => (.ok (), r)
  | refuse e => (.error e, r)
  | closeThen answer => (answer r.close.1, r.close.2)

end Reaction

/-- A consumer answers to each item, knowing what it was handed before. -/
abbrev Consumer (α : Type) := List (Delivery α) → α → Reaction

/-- How reading to the end went: what the consumer was handed, how many items it took, what
ended the reading if it was not the end of the source, and the reader afterwards. -/
structure Consumed (α : Type) where
  handed : List (Delivery α)
  accepted : Nat
  failure : Option Failure
  reader : Reader

/-- How many pulls of the source are to come. -/
def remaining (r : Reader) : Nat := r.source.pulls.length

@[simp] theorem remaining_close (r : Reader) : r.close.2.remaining = r.remaining := by
  unfold close
  split <;> simp [remaining]

@[simp] theorem remaining_on (r : Reader) (x : Reaction) :
    (x.on r).2.remaining = r.remaining := by
  cases x with
  | accept => rfl
  | refuse e => rfl
  | closeThen answer => exact remaining_close r

/-- A line that was read is no longer to come. -/
theorem remaining_readLine_lt {r r' : Reader} {t : Text} (h : r.readLine = (.ok (some t), r')) :
    r'.remaining < r.remaining := by
  unfold readLine at h
  split at h
  · simp at h
  · split at h
    · simp at h
    · simp at h
    · rename_i hp
      simp only [Prod.mk.injEq] at h
      rw [← h.2]
      exact Source.pulls_pull_lt hp

/-- An item that was read is no longer to come. -/
theorem remaining_read_lt {format : LineFormat α} {r r' : Reader} {a : α}
    (h : r.read format = (.ok (some a), r')) : r'.remaining < r.remaining := by
  unfold read at h
  split at h
  · simp at h
  · simp at h
  · rename_i hr
    simp only [Prod.mk.injEq] at h
    rw [← h.2]
    exact remaining_readLine_lt hr

/-- Reads items one after the other and hands each to the consumer, until the source ends, a
reading fails, or the consumer fails. -/
def consume (format : LineFormat α) (consumer : Consumer α) (handed : List (Delivery α))
    (accepted : Nat) (r : Reader) : Consumed α :=
  match _h : r.read format with
  | (.error e, r') => ⟨handed, accepted, some e, r'⟩
  | (.ok none, r') => ⟨handed, accepted, none, r'⟩
  | (.ok (some a), r') =>
    let handed' := handed ++ [⟨r'.lineNumber, a⟩]
    match _hc : (consumer handed a).on r' with
    | (.ok (), r'') => consume format consumer handed' (accepted + 1) r''
    | (.error e, r'') => ⟨handed', accepted, some e, r''⟩
termination_by r.remaining
decreasing_by
  have hlt := remaining_read_lt ‹r.read format = _›
  have hon := remaining_on r' (consumer handed a)
  rw [_hc] at hon
  exact hon ▸ hlt

/-- A consumer that takes everything. -/
def acceptAll : Consumer α := fun _ _ => .accept

/-- Reads to the end. -/
def drain (format : LineFormat α) (r : Reader) : Consumed α := r.consume format acceptAll [] 0

/-- Reads to the end and closes the reader, whether or not the reading failed. A failure to close
replaces the failure of the reading. -/
def drainAndClose (format : LineFormat α) (r : Reader) : Consumed α :=
  let c := r.drain format
  { c with
    reader := c.reader.close.2
    failure := match c.reader.close.1 with
      | .error e => some e
      | .ok () => c.failure }

/-! ### The two formats -/

/-- A line read as itself. -/
def asLine : LineFormat Text where
  parse _ line := .ok line

/-- A line read as a sample; a malformed line is reported with its number. A blank line leaves a
record. -/
def asSample : LineFormat Sample where
  parse n line := (Sample.ofLine line).mapError fun e => .malformed (e.atLine n)
  events d := if d.item.isControl then [.blankLine d.lineNumber] else []

end Reader

end TaggedCorpus
