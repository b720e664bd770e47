import TaggedCorpus.Feed
import TaggedCorpus.Proofs.Stream.Consume

/-!
What holds of a reader all its life.

Whatever is done with a reader comes down to taking lines and closing, so what these two keep is
kept by everything. In this way a reader has closed its source exactly once as soon as it is
closed itself, and not at all before.
-/

namespace TaggedCorpus

namespace Source

lemma closings?_pull (s : Source) : s.pull.2.closings? = s.closings? := by
  unfold pull
  split
  · rfl
  · split <;> rfl

lemma closings?_close (s : Source) : s.close.2.closings? = s.closings?.map (· + 1) := by
  unfold close
  split
  · rename_i h
    simp [closings?, h]
  · rename_i h
    simp [closings?, h]

end Source

namespace Reader

variable {α : Type} {format : LineFormat α} {P : Reader → Prop} {r : Reader}

/-! ### Using a reader -/

/-- What can be done with a reader. -/
inductive Operation (α : Type)
  | read
  | drain
  | drainAndClose
  | feed (consumer : Consumer α)
  | close

/-- The reader after an operation, whatever the operation came to. -/
def perform (format : LineFormat α) (r : Reader) : Operation α → Reader
  | .read => (r.read format).2
  | .drain => (r.drain format).reader
  | .drainAndClose => (r.drainAndClose format).reader
  | .feed consumer => (r.feed format consumer).reader
  | .close => r.close.2

/-- The reader after these operations. -/
def performAll (format : LineFormat α) (r : Reader) (operations : List (Operation α)) : Reader :=
  operations.foldl (perform format) r

lemma kept_by_consume {consumer : Consumer α} {handed : List (Delivery α)} {accepted : Nat}
    (hread : ∀ {r : Reader}, P r → P (r.read format).2)
    (hcall : ∀ {r : Reader} (handed : List (Delivery α)) (a : α), P r →
      P ((consumer handed a).on r).2)
    (hr : P r) : P (r.consume format consumer handed accepted).reader := by
  -- by the pulls that remain: a round takes one of them or is the last
  induction hn : r.remaining using Nat.strongRecOn generalizing r handed accepted with
  | ind n ih =>
  subst hn
  have hnext : P (r.read format).2 := hread hr
  cases round format consumer handed r with
  | ended r' heq =>
    rw [heq] at hnext
    rw [consume_of_end heq]
    exact hnext
  | failed e r' heq =>
    rw [heq] at hnext
    rw [consume_of_failure heq]
    exact hnext
  | taken a r' r'' heq hon hless =>
    rw [heq] at hnext
    have hleft := hcall handed a hnext
    rw [hon] at hleft
    rw [consume_of_taken heq hon]
    exact ih _ hless hleft rfl
  | refused a e r' r'' heq hon =>
    rw [heq] at hnext
    have hleft := hcall handed a hnext
    rw [hon] at hleft
    rw [consume_of_refused heq hon]
    exact hleft

/-- What taking a line and closing both keep. -/
structure Kept (P : Reader → Prop) : Prop where
  readLine {r : Reader} : P r → P r.readLine.2
  close {r : Reader} : P r → P r.close.2

namespace Kept

variable (h : Kept P)

include h

lemma read (hr : P r) : P (r.read format).2 := by
  rw [read_snd]
  exact h.readLine hr

lemma on (x : Reaction) (hr : P r) : P (x.on r).2 := by
  cases x with
  | accept => exact hr
  | refuse e => exact hr
  | closeThen answer => exact h.close hr

lemma consume {consumer : Consumer α} {handed : List (Delivery α)} {accepted : Nat} (hr : P r) :
    P (r.consume format consumer handed accepted).reader :=
  kept_by_consume h.read (fun _ _ => h.on _) hr

lemma perform (operation : Operation α) (hr : P r) : P (r.perform format operation) := by
  cases operation with
  | read => exact h.read hr
  | drain => exact h.consume hr
  | drainAndClose => exact h.close (h.consume hr)
  | feed consumer => exact h.close (h.consume hr)
  | close => exact h.close hr

lemma performAll {operations : List (Operation α)} (hr : P r) :
    P (r.performAll format operations) := by
  induction operations generalizing r with
  | nil => exact hr
  | cons operation rest ih => exact ih (h.perform operation hr)

end Kept

/-! ### Closing -/

lemma kept_closed : Kept fun r => r.closed = true where
  readLine := fun {r} hr => (closed_readLine r).trans hr
  close := fun {r} _ => closed_close r

/-- The source has been closed once more than at first if the reader is closed, and else as
often as at first. -/
def ClosedOnce (s : Source) (r : Reader) : Prop :=
  r.source.closings? = s.closings?.map (· + r.closed.toNat)

lemma closedOnce_ofSource {s : Source} : ClosedOnce s (ofSource s) := by
  cases h : s.closings? <;> simp [ClosedOnce, ofSource, h]

lemma kept_closedOnce (s : Source) : Kept (ClosedOnce s) where
  readLine := by
    intro r hr
    unfold ClosedOnce at hr ⊢
    cases h : r.closed with
    | true => rwa [readLine_of_closed h]
    | false => rwa [readLine_of_open h, pulled, Source.closings?_pull]
  close := by
    intro r hr
    unfold ClosedOnce at hr ⊢
    cases h : r.closed with
    | true => rwa [close_of_closed h]
    | false =>
      rw [h] at hr
      simp only [Bool.toNat_false, Nat.add_zero, Option.map_id'] at hr
      simp only [close_of_open h, Source.closings?_close, hr, Bool.toNat_true]

end Reader

end TaggedCorpus
