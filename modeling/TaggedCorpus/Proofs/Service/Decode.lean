import TaggedCorpus.Proofs.Corpus

/-!
What a request to decode is answered with.

Every line is answered with one record, as long as no line is malformed; a record without tokens
and spans is the one of a blank line, since any other line has a word on it. Of the malformed lines
the first one is reported. Nothing else can go wrong, for the lines are held in memory.
-/

namespace TaggedCorpus

/-! ### Lines -/

lemma exists_decodeLine_of_isBlankLine {line : Text} (h : line.isBlankLine = true) :
    ∃ s, decodeLine line = .ok s := by
  have hwords : Segment.wordsOf [] = line.words := ((Text.words_eq_nil_iff line).mpr h).symm
  exact ⟨_, decodeLine_eq_sentence line [] (by simp) List.nodup_nil hwords⟩

lemma ne_nil_of_decodeLine {line : Text} {s : Sentence} (hline : line.isBlankLine = false)
    (h : decodeLine line = .ok s) : s.tokens ≠ [] ∨ s.spans ≠ [] := by
  by_contra hnone
  simp only [not_or, not_not] at hnone
  have hwords := words_of_decodeWords ((decodeLine_eq_ok_iff line s).mp h)
  rw [Sentence.words, hnone.1, hnone.2] at hwords
  have hnil : Sentence.weave [] 0 [] = [] := Sentence.marksAt_eq_nil (by simp)
  have hblank := (Text.words_eq_nil_iff line).mp (hwords.symm.trans hnil)
  rw [hline] at hblank
  cases hblank

namespace Sample

lemma exists_ofLine_iff (line : Text) :
    (∃ s, ofLine line = .ok s) ↔ line.isBlankLine = true ∨ ∃ s, decodeLine line = .ok s := by
  constructor
  · rintro ⟨s, hs⟩
    rcases ofLine_cases hs with ⟨hblank, -⟩ | ⟨-, s', -, hs'⟩
    · exact Or.inl hblank
    · exact Or.inr ⟨s', hs'⟩
  · intro h
    by_cases hblank : line.isBlankLine = true
    · exact ⟨.control, if_pos hblank⟩
    · obtain ⟨s, hs⟩ := h.resolve_left hblank
      exact ⟨.sentence s, ofLine_of_decodeLine hblank hs⟩

lemma ofLine_eq_error_iff {line : Text} {e : MalformedLine} :
    ofLine line = .error e ↔ decodeLine line = .error e := by
  by_cases hblank : line.isBlankLine = true
  · obtain ⟨s, hs⟩ := exists_decodeLine_of_isBlankLine hblank
    simp [ofLine, hblank, hs]
  · rw [ofLine, if_neg hblank, Except.map_eq_error_iff]

end Sample

namespace Service

/-! ### Records -/

/-- The record that a line is answered with. -/
inductive SampleRecord.Answers (line : Text) : SampleRecord → Prop
  | blank (hline : line.isBlankLine = true) :
    Answers line { tokens := [], spans := [], resetAdaptiveState := true, line := [] }
  | sentence {s : Sentence} (hline : line.isBlankLine = false) (hs : decodeLine line = .ok s)
      (hne : s.tokens ≠ [] ∨ s.spans ≠ []) :
    Answers line
      { tokens := s.tokens, spans := s.spans, resetAdaptiveState := false, line := s.line }

lemma answers_ofSample {line : Text} {s : Sample} (h : Sample.ofLine line = .ok s) :
    (SampleRecord.ofSample s).Answers line := by
  rcases Sample.ofLine_cases h with ⟨hblank, rfl⟩ | ⟨hline, s', rfl, hs'⟩
  · exact .blank hblank
  · exact .sentence hline hs' (ne_nil_of_decodeLine hline hs')

/-! ### Replies -/

/-- The line is blank, or it stands for a sentence. -/
def IsReadable (line : Text) : Prop := line.isBlankLine = true ∨ ∃ s, decodeLine line = .ok s

/-- The report is about the first line that is malformed: it has the number of that line, the line
itself, and what is wrong with it. -/
def ReportsFirst (lines : List Text) (e : MalformedLine) : Prop :=
  ∃ before line after reason, lines = before ++ line :: after ∧ (∀ l ∈ before, IsReadable l) ∧
    decodeLine line = .error { reason, line } ∧
    e = { reason, line, lineNumber := some (before.length + 1) }

lemma isReadable_of_answers {line : Text} {r : SampleRecord} (h : r.Answers line) :
    IsReadable line := by
  cases h with
  | blank hline => exact Or.inl hline
  | sentence hline hs hne => exact Or.inr ⟨_, hs⟩

lemma not_isReadable {line : Text} {e : MalformedLine} (h : decodeLine line = .error e) :
    ¬ IsReadable line := by
  rintro (hblank | ⟨s, hs⟩)
  · obtain ⟨s, hs⟩ := exists_decodeLine_of_isBlankLine hblank
    rw [hs] at h
    cases h
  · rw [hs] at h
    cases h

/-- What a reply says about the lines of the text: it has a record for each of them, or it reports
the first malformed one. -/
def DecodeReply (lines : List Text) : Reply (List SampleRecord) MalformedLine → Prop
  | .answered records => List.Forall₂ SampleRecord.Answers lines records
  | .unprocessable e => ReportsFirst lines e

lemma exists_decode (q : DecodeRequest) :
    ∃ reply, decode q = .ok reply ∧ DecodeReply q.text.lines reply := by
  cases h : decodeText q.text with
  | ok samples =>
    refine ⟨.answered (samples.map .ofSample), decode_of_decodeText h, ?_⟩
    rw [DecodeReply, List.forall₂_map_right_iff]
    exact (decodeText_eq_ok_iff.mp h).imp fun line s => answers_ofSample
  | error f =>
    obtain ⟨before, line, after, e, hlines, hbefore, hline, rfl⟩ := exists_of_decodeText_eq_error h
    refine ⟨.unprocessable (e.atLine (before.length + 1)), by rw [decode, h], ?_⟩
    rw [Sample.ofLine_eq_error_iff] at hline
    obtain ⟨reason, -, rfl⟩ := Except.mapError_eq_error_iff.mp hline
    exact ⟨before, line, after, reason, hlines,
      fun l hl => (Sample.exists_ofLine_iff l).mp (hbefore l hl), hline, rfl⟩

lemma DecodeReply.status_iff {lines : List Text} {reply : Reply (List SampleRecord) MalformedLine}
    (h : DecodeReply lines reply) :
    (reply.status = 200 ↔ ∀ line ∈ lines, IsReadable line) ∧
      (reply.status = 422 ↔ ∃ line ∈ lines, ¬ IsReadable line) := by
  cases reply with
  | answered records =>
    have hall := List.Forall₂.forall_mem_left h fun _ _ => isReadable_of_answers
    refine ⟨⟨fun _ => hall, fun _ => rfl⟩, nofun, ?_⟩
    rintro ⟨line, hline, hnot⟩
    exact absurd (hall line hline) hnot
  | unprocessable e =>
    obtain ⟨before, line, after, reason, rfl, -, hline, -⟩ := h
    have hnot := not_isReadable hline
    refine ⟨⟨nofun, fun hall => absurd (hall line (by simp)) hnot⟩, fun _ => ?_, fun _ => rfl⟩
    exact ⟨line, by simp, hnot⟩

/-- **What a request to decode is answered with.** There is always a reply. If each line is blank or
stands for a sentence, it has one record for each line in order: for a blank line one that asks for
a reset and has no token and no span, and for any other line one with the sentence of the line,
which has a token or a span, and with what the sentence is written as. Otherwise it reports the
first malformed line with its number, the line itself, and the reason for which it is malformed. -/
theorem exists_decode_reply (q : DecodeRequest) :
    ∃ reply, decode q = .ok reply ∧ DecodeReply q.text.lines reply ∧
      (reply.status = 200 ↔ ∀ line ∈ q.text.lines, IsReadable line) ∧
      (reply.status = 422 ↔ ∃ line ∈ q.text.lines, ¬ IsReadable line) := by
  obtain ⟨reply, hreply, hlines⟩ := exists_decode q
  exact ⟨reply, hreply, hlines, hlines.status_iff⟩

end Service

end TaggedCorpus
