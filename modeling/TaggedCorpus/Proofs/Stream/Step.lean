import Mathlib.Tactic.Common
import TaggedCorpus.Stream.Reader

/-!
What one reading does to a reader, and what one closing does.

An open reader pulls its source once for each reading and counts the line if it is given one,
whatever the line is then read as. A closed reader leaves its source alone.
-/

namespace TaggedCorpus

/-- Whether a pull produced a line. -/
def Pull.isLine : Pull → Bool
  | .line _ => true
  | .ended | .failed _ => false

namespace Source

lemma pull_of_cons {s : Source} {p : Pull} {rest : List Pull} (h : s.refusal? = none)
    (hp : s.pulls = p :: rest) : s.pull = (p, { s with pulls := rest }) := by
  unfold pull
  rw [h, hp]

lemma pull_cases (s : Source) :
    (∃ p rest, s.pulls = p :: rest ∧ s.pull = (p, { s with pulls := rest })) ∨
      (s.pull.1.isLine = false ∧ s.pull.2 = s) := by
  unfold pull
  split
  · exact .inr ⟨rfl, rfl⟩
  · split
    · refine .inr ⟨?_, rfl⟩
      unfold lastPull
      split <;> rfl
    · rename_i p rest hp
      exact .inl ⟨p, rest, hp, rfl⟩

end Source

namespace Reader

variable {α : Type} {format : LineFormat α} {r : Reader}

/-! ### Reading -/

/-- An open reader after one pull of its source: it counts the line if there is one. -/
def pulled (r : Reader) : Reader :=
  { r with
    source := r.source.pull.2
    lineNumber := r.lineNumber + r.source.pull.1.isLine.toNat }

lemma readLine_of_open (h : r.closed = false) : r.readLine.2 = r.pulled := by
  unfold readLine pulled
  rw [h]
  rcases hp : r.source.pull with ⟨p, source⟩
  cases p <;> rfl

lemma readLine_of_closed (h : r.closed = true) : r.readLine = (.ok none, r) := by
  rw [readLine, if_pos h]

lemma closed_readLine (r : Reader) : r.readLine.2.closed = r.closed := by
  cases h : r.closed with
  | true => rw [readLine_of_closed h, h]
  | false => rw [readLine_of_open h, pulled, h]

lemma read_snd (format : LineFormat α) (r : Reader) : (r.read format).2 = r.readLine.2 := by
  unfold read
  split <;> rename_i hline <;> rw [hline]

lemma read_snd_of_open (h : r.closed = false) : (r.read format).2 = r.pulled := by
  rw [read_snd, readLine_of_open h]

lemma read_fst_of_open (h : r.closed = false) :
    (r.read format).1 = match r.source.pull.1 with
      | .ended => .ok none
      | .failed e => .error (if e.isReadFault then .readFailed r.lineNumber e else e)
      | .line t => (format.parse (r.lineNumber + 1) t.chomp).map some := by
  rw [read, readLine, h]
  rcases hp : r.source.pull with ⟨p, source⟩
  cases p <;> rfl

lemma read_of_closed (h : r.closed = true) : r.read format = (.ok none, r) := by
  rw [read, readLine_of_closed h]

/-! ### Closing -/

lemma close_of_open (h : r.closed = false) :
    r.close = (r.source.close.1, { r with source := r.source.close.2, closed := true }) := by
  rw [close, h]
  rfl

lemma close_of_closed (h : r.closed = true) : r.close = (.ok (), r) := by
  rw [close, if_pos h]

lemma closed_close (r : Reader) : r.close.2.closed = true := by
  cases h : r.closed with
  | true => rw [close_of_closed h, h]
  | false => rw [close_of_open h]

lemma pulls_close (r : Reader) : r.close.2.source.pulls = r.source.pulls := by
  cases h : r.closed with
  | true => rw [close_of_closed h]
  | false => rw [close_of_open h, Source.pulls_close]

end Reader

end TaggedCorpus
