import TaggedCorpus.Proofs.Result
import TaggedCorpus.Proofs.Stream.Progress

/-!
Samples read one by one, with their line numbers.

Each reading takes one pull, also one that fails, and leaves the reader open. So the reading that
takes a given line is not touched by the lines and failures before it, except that it counts the
lines among them to tell its own number.
-/

namespace TaggedCorpus

lemma line_of_decodeLine_eq_error {t : Text} {e : MalformedLine} (h : decodeLine t = .error e) :
    e.line = t := by
  obtain ⟨reason, -, rfl⟩ := Except.mapError_eq_error_iff.mp h
  rfl

lemma Failure.isReadFault_iff (e : Failure) :
    e.isReadFault = true ↔ e.isDeviceFault = true ∨ ∃ f, e = .undecodable (.bytes f) := by
  cases e with
  | undecodable f => cases f <;> simp [isReadFault, isDeviceFault]
  | _ => simp [isReadFault]

namespace Reader

variable {α : Type} {format : LineFormat α} {r : Reader}

lemma performAll_read {before after : List Pull} (hopen : r.closed = false)
    (hwilling : r.source.refusal? = none) (hp : r.source.pulls = before ++ after) :
    r.performAll format (List.replicate before.length .read) =
      { r with
        source := { r.source with pulls := after }
        lineNumber := r.lineNumber + Pull.lineCount before } := by
  induction before generalizing r with
  | nil =>
    rw [List.nil_append] at hp
    rw [← hp]
    rfl
  | cons p before ih =>
    have hpulled : r.pulled =
        { r with
          source := { r.source with pulls := before ++ after }
          lineNumber := r.lineNumber + p.isLine.toNat } := by
      rw [pulled, Source.pull_of_cons hwilling hp]
      rfl
    have hrest := ih (r := r.pulled) hopen (by rw [hpulled]; exact hwilling) (by rw [hpulled])
    rw [List.length_cons, List.replicate_succ, performAll, List.foldl_cons, perform,
      read_snd_of_open hopen, ← performAll, hrest, hpulled, Pull.lineCount_cons, Nat.add_assoc]

lemma asSample_parse (n : Nat) (t : Text) :
    (asSample.parse n t).map some =
      if t.isBlankLine then .ok (some .control)
      else match decodeLine t with
        | .ok sentence => .ok (some (.sentence sentence))
        | .error e => .error (.malformed ⟨e.reason, t, some n⟩) := by
  change ((Sample.ofLine t).mapError fun e => Failure.malformed (e.atLine n)).map some = _
  rw [Sample.ofLine]
  split
  · rfl
  · cases hdecode : decodeLine t with
    | ok sentence => rfl
    | error e =>
      rw [← line_of_decodeLine_eq_error hdecode]
      rfl

/-- **Reading samples one by one**: what a reading comes to depends on the pull that it takes and
on the number of lines delivered before, and on nothing else that was read or failed. A line is
reported with its own number, and a failure of the source with the number of lines before it. -/
theorem read_asSample_of_pulls {s : Source} {before after : List Pull} {p : Pull}
    (hwilling : s.refusal? = none) (hp : s.pulls = before ++ p :: after) :
    let r := (ofSource s).performAll asSample (List.replicate before.length .read)
    let n := Pull.lineCount before
    let answer := (r.read asSample).1
    r.lineNumber = n ∧ r.closed = false ∧
    (r.read asSample).2 =
      { source := { s with pulls := after }, lineNumber := n + p.isLine.toNat } ∧
    (∀ t, p = .line t → answer =
      if t.chomp.isBlankLine then .ok (some .control)
      else match decodeLine t.chomp with
        | .ok sentence => .ok (some (.sentence sentence))
        | .error e => .error (.malformed ⟨e.reason, t.chomp, some (n + 1)⟩)) ∧
    (∀ e, p = .failed e →
      (e.isDeviceFault = true ∨ (∃ f, e = .undecodable (.bytes f)) →
        answer = .error (.readFailed n e) ∧ (Failure.readFailed n e).message =
          s!"Failed reading input after {n} delivered lines: " ++ e.message) ∧
      (¬ (e.isDeviceFault = true ∨ ∃ f, e = .undecodable (.bytes f)) → answer = .error e)) ∧
    (p = .ended → answer = .ok none) := by
  intro r n answer
  have hr : r = { source := { s with pulls := p :: after }, lineNumber := n } := by
    refine (performAll_read rfl hwilling hp).trans ?_
    simp [ofSource, n]
  have hopen : r.closed = false := by rw [hr]
  have hpull : r.source.pull = (p, { s with pulls := after }) := by
    rw [hr]
    exact Source.pull_of_cons hwilling rfl
  have hanswer : answer = _ := read_fst_of_open hopen
  have hnumber : r.lineNumber = n := by rw [hr]
  rw [hpull, hnumber] at hanswer
  refine ⟨hnumber, hopen, ?_, ?_, ?_, ?_⟩
  · rw [read_snd_of_open hopen, pulled, hpull, hr]
  · rintro t rfl
    exact hanswer.trans (asSample_parse (n + 1) t.chomp)
  · rintro e rfl
    refine ⟨fun h => ⟨?_, rfl⟩, fun h => ?_⟩
    · exact hanswer.trans (congrArg Except.error (if_pos ((Failure.isReadFault_iff e).mpr h)))
    · exact hanswer.trans (congrArg Except.error (if_neg (mt (Failure.isReadFault_iff e).mp h)))
  · rintro rfl
    exact hanswer

/-- A source that fails, ends and goes on all the same. -/
def unsteadySource : Source :=
  .ofPulls [.line "<END>\n".toList, .failed (.device "gone"), .ended, .line " \r\n".toList,
    .line "a <END>\r\n".toList, .line "b".toList] none

theorem read_asSample_of_pulls_unsteady :
    (((ofSource unsteadySource).performAll asSample [.read]).read asSample).1 =
        .error (.readFailed 1 (.device "gone")) ∧
      (((ofSource unsteadySource).performAll asSample [.read, .read, .read, .read]).read
        asSample).1 = .error (.malformed ⟨.unmatchedClosing 1, "a <END>".toList, some 3⟩) := by
  have hfailed : unsteadySource.pulls = [.line "<END>\n".toList] ++ .failed (.device "gone") ::
      [.ended, .line " \r\n".toList, .line "a <END>\r\n".toList, .line "b".toList] := rfl
  have hline : unsteadySource.pulls = [.line "<END>\n".toList, .failed (.device "gone"), .ended,
      .line " \r\n".toList] ++ .line "a <END>\r\n".toList :: [.line "b".toList] := rfl
  obtain ⟨-, -, -, -, hread, -⟩ := read_asSample_of_pulls rfl hfailed
  obtain ⟨-, -, -, hread', -⟩ := read_asSample_of_pulls rfl hline
  exact ⟨((hread _ rfl).1 (.inl rfl)).1, hread' _ rfl⟩

end Reader

end TaggedCorpus
