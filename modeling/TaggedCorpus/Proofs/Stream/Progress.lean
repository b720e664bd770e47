import TaggedCorpus.Proofs.Stream.Closing

/-!
How far a reader has got.

An open reader pulls its source once for each reading and counts the lines it is given; a closed
one leaves the source alone. So the number of a reader is at any time that of the lines its source
has delivered, and what a reading comes to depends on one pull and that number alone.
-/

namespace TaggedCorpus

/-- How many lines these pulls produced. -/
def Pull.lineCount (pulls : List Pull) : Nat := pulls.countP Pull.isLine

lemma Pull.lineCount_append (before after : List Pull) :
    lineCount (before ++ after) = lineCount before + lineCount after := List.countP_append

lemma Pull.lineCount_cons (p : Pull) (rest : List Pull) :
    lineCount (p :: rest) = p.isLine.toNat + lineCount rest := by
  rw [lineCount, List.countP_cons, ← lineCount, Nat.add_comm]
  cases p <;> rfl

namespace Reader

variable {α : Type} {format : LineFormat α} {r : Reader}

/-! ### Lines counted -/

/-- Up to the pulls that are still to come in `r`, those of `s` have been taken, and the reader has
counted the lines among them. -/
def Progress (s : Source) (r : Reader) : Prop :=
  ∃ taken, s.pulls = taken ++ r.source.pulls ∧ r.lineNumber = Pull.lineCount taken

lemma progress_ofSource (s : Source) : Progress s (ofSource s) := ⟨[], rfl, rfl⟩

lemma Progress.pulled {s : Source} (h : Progress s r) : Progress s r.pulled := by
  obtain ⟨taken, hpulls, hnumber⟩ := h
  rcases r.source.pull_cases with ⟨p, rest, hp, hpull⟩ | ⟨hno, hsame⟩
  · refine ⟨taken ++ [p], ?_, ?_⟩
    · rw [Reader.pulled, hpull, hpulls, hp]
      simp
    · rw [Reader.pulled, hpull, hnumber, Pull.lineCount_append]
      cases hline : p.isLine <;> simp [Pull.lineCount, hline]
  · refine ⟨taken, ?_, ?_⟩
    · rw [Reader.pulled, hsame, hpulls]
    · rw [Reader.pulled, hno, hnumber]
      rfl

lemma kept_progress (s : Source) : Kept (Progress s) where
  readLine := by
    intro r hr
    cases h : r.closed with
    | true => rwa [readLine_of_closed h]
    | false =>
      rw [readLine_of_open h]
      exact hr.pulled
  close := by
    rintro r ⟨taken, hpulls, hnumber⟩
    refine ⟨taken, by rw [pulls_close, hpulls], ?_⟩
    cases h : r.closed with
    | true => rw [close_of_closed h, hnumber]
    | false => rw [close_of_open h, hnumber]

/-! ### Closed and open -/

/-- Whether an operation closes the reader, whatever it comes to. -/
def Operation.closes : Operation α → Bool
  | .read | .drain => false
  | .drainAndClose | .feed _ | .close => true

lemma closed_drain (format : LineFormat α) (r : Reader) :
    (r.drain format).reader.closed = r.closed := by
  refine kept_by_consume (P := fun r' => r'.closed = r.closed) (fun {r'} h => ?_)
    (fun {r'} handed a h => h) rfl
  rw [read_snd, closed_readLine, h]

lemma closed_perform (format : LineFormat α) (r : Reader) (operation : Operation α) :
    (r.perform format operation).closed = (r.closed || operation.closes) := by
  cases operation with
  | read => rw [perform, read_snd, closed_readLine, Operation.closes, Bool.or_false]
  | drain => rw [perform, closed_drain, Operation.closes, Bool.or_false]
  | drainAndClose => exact (closed_close _).trans (Bool.or_true _).symm
  | feed consumer => exact (closed_close _).trans (Bool.or_true _).symm
  | close => exact (closed_close r).trans (Bool.or_true _).symm

lemma closed_performAll (format : LineFormat α) (r : Reader) (operations : List (Operation α)) :
    (r.performAll format operations).closed = (r.closed || operations.any Operation.closes) := by
  induction operations generalizing r with
  | nil => exact (Bool.or_false _).symm
  | cons operation rest ih =>
    rw [performAll, List.foldl_cons, ← performAll, ih, closed_perform, List.any_cons, Bool.or_assoc]

/-- **The life of a reader**, whatever is done with it. Its number is that of the lines its source
has delivered. While it is open a reading pulls the source once and counts the line if there is one,
whether or not that can be read; a source that fails or ends changes nothing else. The first closing
closes the source, once, and marks the reader as closed even if it fails. From then on nothing is
pulled, every reading tells the end, and closing again does nothing. -/
theorem lifecycle (format : LineFormat α) (s : Source) (operations : List (Operation α)) :
    let r := (ofSource s).performAll format operations
    (∃ taken, s.pulls = taken ++ r.source.pulls ∧ r.lineNumber = Pull.lineCount taken) ∧
    r.closed = operations.any Operation.closes ∧
    r.source.closings? = s.closings?.map (· + r.closed.toNat) ∧
    (r.closed = false →
      (r.read format).2 = { r with
        source := r.source.pull.2
        lineNumber := r.lineNumber + r.source.pull.1.isLine.toNat } ∧
      r.close = (r.source.close.1, { r with source := r.source.close.2, closed := true })) ∧
    (r.closed = true →
      r.read format = (.ok none, r) ∧ r.drain format = ⟨[], 0, none, r⟩ ∧
      r.drainAndClose format = ⟨[], 0, none, r⟩ ∧ r.close = (.ok (), r)) := by
  intro r
  refine ⟨(kept_progress s).performAll (progress_ofSource s), closed_performAll format _ _,
    (kept_closedOnce s).performAll closedOnce_ofSource, fun hopen => ?_, fun hclosed => ?_⟩
  · exact ⟨read_snd_of_open hopen, close_of_open hopen⟩
  · have hread : r.read format = (.ok none, r) := read_of_closed hclosed
    have hdrain : r.drain format = ⟨[], 0, none, r⟩ := consume_of_end hread
    have hclose := close_of_closed hclosed
    refine ⟨hread, hdrain, ?_, hclose⟩
    rw [drainAndClose, hdrain, hclose]

end Reader

end TaggedCorpus
