import TaggedCorpus.Proofs.Sentence.RoundTrip
import TaggedCorpus.Proofs.Stream.Lines
import TaggedCorpus.Proofs.Text.Lines
import TaggedCorpus.Service.Endpoint

/-!
Writing a decoded corpus out and decoding it again.

A text is decoded line by line, and a line that stands for a sample has no break in it. What is
written for the samples, each on a line of its own, is therefore cut into the lines that were
written, and these stand for the samples they were written for.
-/

namespace TaggedCorpus

/-! ### Decoding a text -/

lemma decodeText_eq (t : Text) : decodeText t = Reader.itemsFrom Reader.asSample 1 t.lines :=
  Reader.outcome_drainAndClose_ofLines Reader.asSample t.lines

lemma asSample_parse_eq_ok_iff (n : Nat) (l : Text) (s : Sample) :
    Reader.asSample.parse n l = .ok s ↔ Sample.ofLine l = .ok s :=
  Except.mapError_eq_ok_iff

/-- **Decoding a text** succeeds exactly if each of its lines stands for a sample, and gives these
samples. -/
theorem decodeText_eq_ok_iff {t : Text} {samples : List Sample} :
    decodeText t = .ok samples ↔
      List.Forall₂ (fun l s => Sample.ofLine l = .ok s) t.lines samples := by
  rw [decodeText_eq, Reader.itemsFrom_eq_ok_iff fun n l s => asSample_parse_eq_ok_iff n l.chomp s]
  calc List.Forall₂ (fun l s => Sample.ofLine l.chomp = .ok s) t.lines samples
      ↔ List.Forall₂ (fun l s => Sample.ofLine l = .ok s) (t.lines.map Text.chomp) samples :=
        (List.forall₂_map_left_iff (R := fun l s => Sample.ofLine l = .ok s)).symm
    _ ↔ List.Forall₂ (fun l s => Sample.ofLine l = .ok s) t.lines samples := by
        rw [Text.map_chomp_lines]

lemma exists_of_decodeText_eq_error {t : Text} {f : Failure} (h : decodeText t = .error f) :
    ∃ before line after e, t.lines = before ++ line :: after ∧
      (∀ l ∈ before, ∃ s, Sample.ofLine l = .ok s) ∧ Sample.ofLine line = .error e ∧
      f = .malformed (e.atLine (before.length + 1)) := by
  rw [decodeText_eq] at h
  obtain ⟨before, line, after, hlines, ⟨items, hbefore⟩, hline⟩ :=
    Reader.itemsFrom_eq_error_iff.mp h
  have hchomp : ∀ l ∈ before ++ line :: after, l.chomp = l := by
    rw [← hlines]
    exact fun l hl => Text.chomp_eq_self (Text.isLineBreak_eq_false_of_mem_lines hl)
  rw [hchomp line (by simp)] at hline
  obtain ⟨e, he, rfl⟩ := Except.mapError_eq_error_iff.mp hline
  refine ⟨before, line, after, e, hlines, fun l hl => ?_, he, ?_⟩
  · rw [Reader.itemsFrom_eq_ok_iff fun n l s => asSample_parse_eq_ok_iff n l.chomp s] at hbefore
    have hread := hbefore.forall_mem_left (p := fun l => ∃ s, Sample.ofLine l.chomp = .ok s)
      (fun _ s hs => ⟨s, hs⟩) l hl
    rwa [hchomp l (by simp [hl])] at hread
  · rw [Nat.add_comm]
    rfl

lemma exists_ofLine_of_mem {t : Text} {samples : List Sample} {s : Sample}
    (h : decodeText t = .ok samples) (hs : s ∈ samples) :
    ∃ l ∈ t.lines, Sample.ofLine l = .ok s := by
  have hlines := decodeText_eq_ok_iff.mp h
  clear h
  generalize t.lines = ls at hlines
  induction hlines with
  | nil => cases hs
  | cons hl _ ih =>
    rcases List.mem_cons.mp hs with rfl | hs
    · exact ⟨_, by simp, hl⟩
    · obtain ⟨l, hmem, hl⟩ := ih hs
      exact ⟨l, by simp [hmem], hl⟩

/-! ### Writing the samples out -/

/-- The text that has what the samples are written as on its lines. -/
def writtenOut (samples : List Sample) : Text := Text.ofLines (samples.map Sample.line)

lemma isLineBreak_line_eq_false {l : Text} {s : Sample} (h : Sample.ofLine l = .ok s) :
    ∀ c ∈ s.line, Text.isLineBreak c = false := by
  rw [Sample.words_line_of_ofLine h]
  exact Text.isLineBreak_eq_false_of_mem_unwords fun w => Text.isWord_of_mem_words

lemma lines_writtenOut {t : Text} {samples : List Sample} (h : decodeText t = .ok samples) :
    (writtenOut samples).lines = samples.map Sample.line := by
  refine Text.lines_ofLines fun l hl => ?_
  obtain ⟨s, hs, rfl⟩ := List.mem_map.mp hl
  obtain ⟨l, -, hl⟩ := exists_ofLine_of_mem h hs
  exact isLineBreak_line_eq_false hl

lemma decodeText_writtenOut {t : Text} {samples : List Sample}
    (h : decodeText t = .ok samples) : decodeText (writtenOut samples) = .ok samples := by
  rw [decodeText_eq_ok_iff, lines_writtenOut h, List.forall₂_map_left_iff, List.forall₂_same]
  intro s hs
  obtain ⟨l, -, hl⟩ := exists_ofLine_of_mem h hs
  exact Sample.ofLine_line hl

lemma decode_of_decodeText {t : Text} {samples : List Sample}
    (h : decodeText t = .ok samples) :
    Service.decode ⟨t⟩ = .ok (.answered (samples.map .ofSample)) := by
  rw [Service.decode, h]

lemma map_line_ofSample (samples : List Sample) :
    (samples.map Service.SampleRecord.ofSample).map (·.line) = samples.map Sample.line := by
  rw [List.map_map]
  rfl

/-- **Round trip of a corpus**: what is written for the samples of a text decodes into the same
samples, and so do the lines in the answer of the endpoint. Only control samples are written as
blank lines, and nothing that is written breaks a line. -/
theorem decodeText_roundTrip {t : Text} {samples : List Sample}
    (h : decodeText t = .ok samples) :
    decodeText (writtenOut samples) = .ok samples ∧
      Service.decode ⟨t⟩ = .ok (.answered (samples.map .ofSample)) ∧
      Service.decode ⟨Text.ofLines ((samples.map Service.SampleRecord.ofSample).map (·.line))⟩ =
        .ok (.answered (samples.map .ofSample)) ∧
      ∀ s ∈ samples, (s.line.isBlankLine = true ↔ s.isControl = true) ∧
        ∀ c ∈ s.line, Text.isLineBreak c = false := by
  have hagain := decodeText_writtenOut h
  refine ⟨hagain, decode_of_decodeText h, ?_, fun s hs => ?_⟩
  · rw [map_line_ofSample]
    exact decode_of_decodeText hagain
  · obtain ⟨l, -, hl⟩ := exists_ofLine_of_mem h hs
    exact ⟨Sample.isBlankLine_line_iff hl, isLineBreak_line_eq_false hl⟩

/-- An entity without a token, two kinds of blank line and a sentence that no break ends. -/
def mixedBreaks : Text := "<START> <END>\r\n\n \t\u2028<START:x> a\u00a0<END>  b".toList

theorem decodeText_roundTrip_mixed :
    ∃ samples, decodeText mixedBreaks = .ok samples ∧ samples.map Sample.line =
        ["<START> <END>".toList, [], [], "<START:x> a <END> b".toList] ∧
      decodeText (writtenOut samples) = .ok samples := by
  have hlines : mixedBreaks.lines =
      ["<START> <END>".toList, [], " \t".toList, "<START:x> a\u00a0<END>  b".toList] := by decide
  have hfirst := Sample.ofLine_of_decodeLine (by decide) <|
    decodeLine_eq_sentence "<START> <END>".toList [.entity none []]
      (by decide) (by decide) (by decide)
  have hlast := Sample.ofLine_of_decodeLine (by decide) <|
    decodeLine_eq_sentence "<START:x> a\u00a0<END>  b".toList
      [.entity (some ['x']) [['a']], .token ['b']] (by decide) (by decide) (by decide)
  obtain ⟨samples, hall, hwritten⟩ :
      ∃ samples, List.Forall₂ (fun l s => Sample.ofLine l = .ok s) mixedBreaks.lines samples ∧
        samples.map Sample.line =
          ["<START> <END>".toList, [], [], "<START:x> a <END> b".toList] := by
    rw [hlines]
    refine ⟨_, .cons hfirst <| .cons rfl <| .cons rfl <| .cons hlast .nil, ?_⟩
    simp only [List.map, Sample.words_line_of_ofLine hfirst, Sample.words_line_of_ofLine hlast]
    decide
  have h := decodeText_eq_ok_iff.mpr hall
  exact ⟨samples, h, hwritten, (decodeText_roundTrip h).1⟩

end TaggedCorpus
