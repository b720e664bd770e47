import TaggedCorpus.Failure
import TaggedCorpus.Text.Lines

/-!
Sources of lines.

A source is what its pulls will produce, one after the other, and what they produce after that.
Some sources have a handle that can be closed, which may fail and may make later pulls fail.
-/

namespace TaggedCorpus

/-- What one pull produces. -/
inductive Pull
  | line (t : Text)
  | ended
  | failed (e : Failure)
  deriving DecidableEq

/-- What a source holds open: how often it was closed, what every closing fails with, and what a
pull fails with once it is closed. -/
structure Handle where
  closings : Nat := 0
  onClose : Option Failure := none
  onceClosed : Option Failure := none
  deriving DecidableEq

/-- The pulls to come, what all later ones fail with if they do not just tell the end, and the
handle if there is one. -/
structure Source where
  pulls : List Pull
  afterwards : Option Failure := none
  handle : Option Handle := none
  deriving DecidableEq

namespace Source

/-- What a closed handle makes of a pull. -/
def refusal? (s : Source) : Option Failure :=
  s.handle.bind fun h => if h.closings = 0 then none else h.onceClosed

/-- What comes after the last pull. -/
def lastPull (s : Source) : Pull :=
  match s.afterwards with
  | none => .ended
  | some e => .failed e

/-- Takes what comes next. -/
def pull (s : Source) : Pull × Source :=
  match s.refusal? with
  | some e => (.failed e, s)
  | none => match s.pulls with
    | [] => (s.lastPull, s)
    | p :: rest => (p, { s with pulls := rest })

/-- How often the source was closed; nothing if it cannot be. -/
def closings? (s : Source) : Option Nat := s.handle.map (·.closings)

/-- Closes the handle. The closing counts even if it fails. -/
def close (s : Source) : Except Failure Unit × Source :=
  match s.handle with
  | none => (.ok (), s)
  | some h =>
    (match h.onClose with
      | none => .ok ()
      | some e => .error e,
    { s with handle := some { h with closings := h.closings + 1 } })

/-- The lines of a list, which holds nothing open. -/
def ofLines (lines : List Text) : Source where
  pulls := lines.map .line

/-- A text held in memory, read up to each line feed. -/
def ofText (t : Text) : Source where
  pulls := t.feedLines.map .line
  handle := some { onceClosed := some .closedText }

/-- Any pulls, with a handle whose closing may fail. -/
def ofPulls (pulls : List Pull) (onClose : Option Failure) : Source where
  pulls := pulls
  handle := some { onClose }

/-- The pulls for a text and what follows it, and what all later ones fail with. A fault comes after
the lines that are complete and loses the one that is not. Only a carriage return before the fault
goes on waiting for a line feed. -/
def pullsFrom (t : Text) : ContentEnd → List Pull × Option Failure
  | .complete => (t.fileLines.map .line, none)
  | .cutOff f => (t.completeFileLines.map .line, some (.undecodable f))
  | .broken f later ending =>
    let kept := if t.getLast? = some '\r' then ['\r'] else []
    let (pulls, afterwards) := pullsFrom (kept ++ later) ending
    (t.completeFileLines.map .line ++ .failed (.undecodable f) :: pulls, afterwards)

/-- The lines of a file. -/
def ofContent (c : Content) : Source where
  pulls := (pullsFrom c.text c.ending).1
  afterwards := (pullsFrom c.text c.ending).2
  handle := some { onceClosed := some .closedFile }

/-- A pull that produces a line has taken one of the pulls to come. -/
theorem pulls_pull_lt {s s' : Source} {t : Text} (h : s.pull = (.line t, s')) :
    s'.pulls.length < s.pulls.length := by
  unfold pull at h
  split at h
  · simp at h
  · split at h
    · unfold lastPull at h
      split at h <;> simp at h
    · rename_i p rest hp
      simp only [Prod.mk.injEq] at h
      rw [← h.2, hp]
      simp

@[simp] theorem pulls_close (s : Source) : s.close.2.pulls = s.pulls := by
  unfold close
  split <;> rfl

end Source

end TaggedCorpus
