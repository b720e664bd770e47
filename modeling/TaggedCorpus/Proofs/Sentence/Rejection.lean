import TaggedCorpus.Proofs.Sentence.Reading

/-!
Malformed lines, and what more words after them can mend.

A word that cannot follow the words before it stops the decoder, so it is what is wrong with the
line however the line goes on. At the end of a line two more things can be wrong. An entity that is
still open is closed by one more word. Spans that are repeated stay so, since a decoder takes no
span back.
-/

namespace TaggedCorpus

/-- Whether one word is at fault, because it cannot follow the words before it. -/
def Reason.isOfWord : Reason → Bool
  | .unknownMarker _ | .nestedOpening .. | .unmatchedClosing _ => true
  | .neverClosed _ | .sentence _ | .reported _ => false

namespace Decoder

/-- What is known of a line before its first word. -/
def start : Decoder where
  opened_le _ h := by cases h

variable {d e : Decoder} {w : Text} {us ws : List Text} {reason : Reason}

/-! ### Runs that fail -/

lemma isOfWord_of_step_eq_error (h : d.step w = .error reason) : reason.isOfWord = true := by
  unfold step at h
  split at h
  · cases h
    rfl
  · cases h
  · split at h
    · cases h
      rfl
    · cases h
  · split at h
    · cases h
      rfl
    · cases h

lemma exists_of_run_eq_error (h : d.run ws = .error reason) :
    ∃ before w after e, ws = before ++ w :: after ∧ d.run before = .ok e ∧
      e.step w = .error reason := by
  induction ws generalizing d with
  | nil => cases h
  | cons w ws ih =>
    cases hstep : d.step w with
    | error r =>
      rw [run_cons, hstep] at h
      cases h
      exact ⟨[], w, ws, d, rfl, rfl, hstep⟩
    | ok d' =>
      rw [run_cons, hstep] at h
      obtain ⟨before, v, after, e, rfl, hbefore, hv⟩ := ih h
      refine ⟨w :: before, v, after, e, rfl, ?_, hv⟩
      rw [run_cons, hstep]
      exact hbefore

lemma run_append_of_error (h : d.run us = .error reason) (ws : List Text) :
    d.run (us ++ ws) = .error reason := by
  rw [run_append, h]
  rfl

lemma run_singleton (d : Decoder) (w : Text) : d.run [w] = d.step w := by
  rw [run_cons]
  cases d.step w <;> rfl

/-! ### Spans that were taken in -/

lemma spans_prefix_of_step (h : d.step w = .ok e) : d.spans <+: e.spans := by
  rcases step_cases h with ⟨-, rfl⟩ | ⟨label, -, -, rfl⟩ | ⟨-, o, ho, rfl⟩
  · exact List.prefix_rfl
  · exact List.prefix_rfl
  · exact List.prefix_append _ _

lemma spans_prefix_of_run (h : d.run ws = .ok e) : d.spans <+: e.spans := by
  induction ws generalizing d with
  | nil =>
    cases h
    exact List.prefix_rfl
  | cons w ws ih =>
    obtain ⟨d', hstep, hrun⟩ := run_cons_eq_ok h
    exact (spans_prefix_of_step hstep).trans (ih hrun)

/-! ### The end of a line -/

lemma finish_cases (h : HasRead d ws) (ho : d.opened = none) :
    (∃ s, d.finish = .ok s) ∨
      (¬ d.spans.Nodup ∧ d.finish = .error (.sentence .duplicate)) := by
  cases h with
  | inside segs label ts readable onLabel plain opened tokens spans words =>
    rw [ho] at opened
    cases opened
  | outside segs readable opened tokens spans words =>
    simp only [finish, ho, tokens, spans]
    by_cases hnodup : (Segment.spansFrom 0 segs).Nodup
    · rw [Sentence.of?_eq_ok (Segment.fault?_eq_none readable hnodup)]
      exact Or.inl ⟨_, rfl⟩
    · rw [Sentence.of?_eq_error (Segment.fault?_eq_duplicate readable hnodup)]
      exact Or.inr ⟨hnodup, rfl⟩

end Decoder

/-! ### Words that make no sentence -/

variable {us ws : List Text} {reason : Reason} {d : Decoder}

lemma decodeWords_eq (ws : List Text) :
    decodeWords ws = (Decoder.start.run ws).bind Decoder.finish := rfl

lemma decodeWords_append_of_run (h : Decoder.start.run us = .ok d) (ws : List Text) :
    decodeWords (us ++ ws) = (d.run ws).bind Decoder.finish := by
  rw [decodeWords_eq, Decoder.run_append, h]
  rfl

lemma hasRead_start (h : Decoder.start.run ws = .ok d) : Decoder.HasRead d ws :=
  Decoder.hasRead_run (Decoder.hasRead_nil rfl rfl rfl) h

lemma decodeWords_error_cases (h : decodeWords ws = .error reason) :
    (reason.isOfWord = true ∧ Decoder.start.run ws = .error reason) ∨
    (∃ d, Decoder.start.run ws = .ok d ∧ ¬ d.spans.Nodup ∧ reason = .sentence .duplicate) ∨
    (∃ d o, Decoder.start.run ws = .ok d ∧ o ∈ d.opened ∧ reason = .neverClosed o.token) := by
  cases hrun : Decoder.start.run ws with
  | error r =>
    rw [decodeWords_eq, hrun] at h
    cases h
    obtain ⟨_, _, _, _, -, -, hstep⟩ := Decoder.exists_of_run_eq_error hrun
    exact Or.inl ⟨Decoder.isOfWord_of_step_eq_error hstep, rfl⟩
  | ok d =>
    rw [decodeWords_eq, hrun] at h
    change d.finish = .error reason at h
    cases ho : d.opened with
    | some o =>
      rw [Decoder.finish, ho] at h
      cases h
      exact Or.inr (Or.inr ⟨d, o, rfl, ho, rfl⟩)
    | none =>
      rcases Decoder.finish_cases (hasRead_start hrun) ho with ⟨s, hs⟩ | ⟨hnodup, hduplicate⟩
      · rw [hs] at h
        cases h
      · rw [hduplicate] at h
        cases h
        exact Or.inr (Or.inl ⟨d, rfl, hnodup, rfl⟩)

lemma decodeWords_append_of_run_error (h : Decoder.start.run us = .error reason) (ws : List Text) :
    decodeWords (us ++ ws) = .error reason := by
  rw [decodeWords_eq, Decoder.run_append_of_error h]
  rfl

lemma exists_first_fault (h : Decoder.start.run ws = .error reason) :
    ∃ before w after, ws = before ++ w :: after ∧ decodeWords (before ++ [w]) = .error reason ∧
      ∀ r, decodeWords before = .error r → r.isOfWord = false := by
  obtain ⟨before, w, after, e, rfl, hbefore, hstep⟩ := Decoder.exists_of_run_eq_error h
  refine ⟨before, w, after, rfl, ?_, fun r hr => ?_⟩
  · rw [decodeWords_append_of_run hbefore, Decoder.run_singleton, hstep]
    rfl
  · rcases decodeWords_error_cases hr with ⟨-, hrun⟩ | ⟨_, -, -, rfl⟩ | ⟨_, _, -, -, rfl⟩
    · rw [hbefore] at hrun
      cases hrun
    · rfl
    · rfl

lemma exists_error_of_not_nodup (hrun : Decoder.start.run us = .ok d) (hnodup : ¬ d.spans.Nodup)
    (ws : List Text) : ∃ reason, decodeWords (us ++ ws) = .error reason := by
  cases h : decodeWords (us ++ ws) with
  | error reason => exact ⟨reason, rfl⟩
  | ok s =>
    rw [decodeWords_append_of_run hrun] at h
    obtain ⟨e, hrest, hfinish⟩ := Except.bind_eq_ok_iff.mp h
    obtain ⟨-, -, hspans⟩ := Decoder.finish_eq_ok_iff.mp hfinish
    -- the sentence would begin with the repeated spans
    have hprefix : d.spans <+: s.spans := hspans ▸ Decoder.spans_prefix_of_run hrest
    exact absurd (s.nodup.sublist hprefix.sublist) hnodup

lemma decodeWords_closing (hrun : Decoder.start.run us = .ok d) {o : Opening} (ho : o ∈ d.opened) :
    (∃ s, decodeWords (us ++ [Marker.closing]) = .ok s) ∨
      decodeWords (us ++ [Marker.closing]) = .error (.sentence .duplicate) := by
  have hstep := Decoder.step_of_closing Role.ofWord_closing ho
  have hread := Decoder.hasRead_step (hasRead_start hrun) hstep
  rw [decodeWords_append_of_run hrun, Decoder.run_singleton, hstep]
  exact (Decoder.finish_cases hread rfl).imp_right And.right

/-! ### Malformed lines -/

lemma decodeLine_of_decodeWords_error {line : Text} (h : decodeWords line.words = .error reason) :
    decodeLine line = .error { reason, line } := by
  rw [decodeLine, h]
  rfl

/-- **What is wrong with a line stays wrong.** A word that is at fault is the first one that is, it
can be told as soon as it is read, and the line is malformed for the same reason however it goes on.
A line with repeated spans is malformed however it goes on. The only other lines that are malformed
end in an open entity, and with that entity closed nothing but repeated spans can be wrong. -/
theorem decodeLine_error_lasts {line : Text} {e : MalformedLine} (h : decodeLine line = .error e) :
    (e.reason.isOfWord = true ∧
      (∀ more : Text, decodeLine (line ++ ' ' :: more) =
        .error { reason := e.reason, line := line ++ ' ' :: more }) ∧
      ∃ before w after, line.words = before ++ w :: after ∧
        decodeWords (before ++ [w]) = .error e.reason ∧
        ∀ r, decodeWords before = .error r → r.isOfWord = false) ∨
    (e.reason = .sentence .duplicate ∧
      ∀ more : Text, ∃ reason, decodeLine (line ++ ' ' :: more) =
        .error { reason, line := line ++ ' ' :: more }) ∨
    ∃ token, e.reason = .neverClosed token ∧
      ((∃ s, decodeLine (line ++ ' ' :: Marker.closing) = .ok s) ∨
        decodeLine (line ++ ' ' :: Marker.closing) =
          .error { reason := .sentence .duplicate, line := line ++ ' ' :: Marker.closing }) := by
  obtain ⟨reason, hreason, rfl⟩ := Except.mapError_eq_error_iff.mp h
  have hwords : ∀ more : Text, (line ++ ' ' :: more).words = line.words ++ more.words :=
    fun more => Text.words_append_cons line (by decide) more
  rcases decodeWords_error_cases hreason with ⟨hword, hrun⟩ | ⟨d, hrun, hnodup, rfl⟩ |
    ⟨d, o, hrun, ho, rfl⟩
  · refine Or.inl ⟨hword, fun more => decodeLine_of_decodeWords_error ?_, exists_first_fault hrun⟩
    rw [hwords]
    exact decodeWords_append_of_run_error hrun more.words
  · refine Or.inr (Or.inl ⟨rfl, fun more => ?_⟩)
    obtain ⟨reason, hmore⟩ := exists_error_of_not_nodup hrun hnodup more.words
    rw [← hwords] at hmore
    exact ⟨reason, decodeLine_of_decodeWords_error hmore⟩
  · refine Or.inr (Or.inr ⟨o.token, rfl, ?_⟩)
    have hclosing : (line ++ ' ' :: Marker.closing).words = line.words ++ [Marker.closing] := by
      rw [hwords, Text.words_of_isWord Marker.isWord_closing]
    rcases decodeWords_closing hrun ho with ⟨s, hs⟩ | hduplicate
    · rw [← hclosing] at hs
      exact Or.inl ⟨s, (decodeLine_eq_ok_iff _ s).mpr hs⟩
    · rw [← hclosing] at hduplicate
      exact Or.inr (decodeLine_of_decodeWords_error hduplicate)

/-- An entity that starts inside of another one. -/
def nestedLine : Text := "<START:x> a\t<START> b".toList

/-- Two entities without a token at one place, and more after them. -/
def repeatedLine : Text := "a <START> <END> <START> <END> b".toList

/-- An entity that starts and does not end. -/
def unclosedLine : Text := "a <START:x> b".toList

/-- The fault of the nested line is there before its last word. A line that begins as the repeated
line does cannot be mended, and the unclosed line can. -/
theorem decodeLine_error_lasts_samples :
    decodeLine nestedLine =
        .error { reason := .nestedOpening "<START>".toList 1, line := nestedLine } ∧
      (∀ more : Text, decodeLine (nestedLine ++ ' ' :: more) =
        .error { reason := .nestedOpening "<START>".toList 1, line := nestedLine ++ ' ' :: more }) ∧
      decodeLine repeatedLine = .error { reason := .sentence .duplicate, line := repeatedLine } ∧
      (∀ more : Text, ∃ reason, decodeLine (repeatedLine ++ ' ' :: more) =
        .error { reason, line := repeatedLine ++ ' ' :: more }) ∧
      decodeLine unclosedLine = .error { reason := .neverClosed 1, line := unclosedLine } ∧
      ((∃ s, decodeLine (unclosedLine ++ ' ' :: Marker.closing) = .ok s) ∨
        decodeLine (unclosedLine ++ ' ' :: Marker.closing) =
          .error { reason := .sentence .duplicate,
                   line := unclosedLine ++ ' ' :: Marker.closing }) := by
  have hnested : decodeLine nestedLine =
      .error { reason := .nestedOpening "<START>".toList 1, line := nestedLine } := rfl
  have hrepeated : decodeLine repeatedLine =
      .error { reason := .sentence .duplicate, line := repeatedLine } := rfl
  have hunclosed : decodeLine unclosedLine =
      .error { reason := .neverClosed 1, line := unclosedLine } := rfl
  refine ⟨hnested, ?_, hrepeated, ?_, hunclosed, ?_⟩
  · rcases decodeLine_error_lasts hnested with ⟨-, h, -⟩ | ⟨h, -⟩ | ⟨_, h, -⟩
    · exact h
    · cases h
    · cases h
  · rcases decodeLine_error_lasts hrepeated with ⟨h, -⟩ | ⟨-, h⟩ | ⟨_, h, -⟩
    · cases h
    · exact h
    · cases h
  · rcases decodeLine_error_lasts hunclosed with ⟨h, -⟩ | ⟨h, -⟩ | ⟨_, -, h⟩
    · cases h
    · cases h
    · exact h

end TaggedCorpus
