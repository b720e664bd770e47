import TaggedCorpus.Proofs.Sentence.Reading
import TaggedCorpus.Proofs.Sentence.Storage

/-!
Reading and writing lines undo each other.

A line that stands for a sentence is written again as the same words, one space apart. The line
of a sentence is read as that sentence with its spans in ascending order, exactly if its tokens
are plain words and its labels have no blank in them.
-/

namespace TaggedCorpus

namespace Sentence

lemma exists_segments (s : Sentence) :
    ∃ segs, Segment.wordsOf segs = s.words ∧ Segment.tokensOf segs = s.tokens ∧
      Segment.spansFrom 0 segs = s.sorted.spans := by
  have hbounds : ∀ x ∈ s.sorted.spans, 0 ≤ x.start ∧ x.stop ≤ 0 + s.tokens.length := by
    intro x hx
    have := (s.sorted.fits x hx).1
    simp only [tokens_sorted] at this
    omega
  obtain ⟨segs, htokens, hspans⟩ := Segment.exists_of_chained s.chained_sorted hbounds
  refine ⟨segs, ?_, htokens, hspans⟩
  rw [← words_sorted, words, ← hspans, tokens_sorted, ← htokens, Segment.weave_spansFrom]

end Sentence

/-! ### The two directions, on words -/

lemma decodeWords_words {s : Sentence} (h : ∀ t ∈ s.tokens, IsPlain t) :
    decodeWords s.words = .ok s.sorted := by
  obtain ⟨segs, hwords, htokens, hspans⟩ := s.exists_segments
  refine (decodeWords_eq_ok_iff _ _).mpr ⟨segs, ?_, hwords, htokens, hspans⟩
  refine (Segment.forall_all_iff 0 segs).mpr ⟨htokens ▸ h, fun x hx => ?_⟩
  rw [hspans] at hx
  exact (s.sorted.fits x hx).2

lemma words_of_decodeWords {ws : List Text} {s : Sentence} (h : decodeWords ws = .ok s) :
    s.words = ws := by
  obtain ⟨segs, -, hwords, htokens, hspans⟩ := exists_segments_of_decodeWords h
  rw [Sentence.words, ← hspans, ← htokens, Segment.weave_spansFrom, hwords]

lemma isWord_of_decodeWords {ws : List Text} {s : Sentence} (hws : ∀ w ∈ ws, Text.IsWord w)
    (h : decodeWords ws = .ok s) :
    (∀ t ∈ s.tokens, Text.IsWord t ∧ IsPlain t) ∧
      ∀ span ∈ s.spans, Text.IsWord (Marker.opening span.label) := by
  obtain ⟨segs, hreadable, rfl, htokens, hspans⟩ := exists_segments_of_decodeWords h
  rw [Segment.forall_mem_wordsOf_iff Marker.isWord_closing, Segment.forall_all_iff 0, htokens,
    hspans] at hws
  obtain ⟨hplain, -⟩ := (Segment.forall_all_iff 0 segs).mp hreadable
  rw [htokens] at hplain
  exact ⟨fun t ht => ⟨hws.1 t ht, hplain t ht⟩, hws.2⟩

lemma isWord_words {s : Sentence} (htokens : ∀ t ∈ s.tokens, Text.IsWord t)
    (hlabels : ∀ span ∈ s.spans, Text.IsWord (Marker.opening span.label)) :
    ∀ w ∈ s.words, Text.IsWord w := by
  obtain ⟨segs, hwords, ht, hs⟩ := s.exists_segments
  rw [← hwords, Segment.forall_mem_wordsOf_iff Marker.isWord_closing, Segment.forall_all_iff 0, ht,
    hs]
  exact ⟨htokens, fun x hx => hlabels x (Span.mem_sorted.mp hx)⟩

/-! ### The two directions, on lines -/

/-- **Decoding undoes encoding**: the line of a sentence is read as the sentence with its spans
in ascending order, exactly if each token is a plain word and no label has a blank in it. Of the
blanks, only information separators can be in a label. -/
theorem decodeLine_line_eq_sorted_iff (s : Sentence) :
    (decodeLine s.line = .ok s.sorted ↔
      (∀ t ∈ s.tokens, t ≠ [] ∧ (∀ c ∈ t, Text.isBlank c = false) ∧
        Role.ofWord t = .ok .plain) ∧
      ∀ span ∈ s.spans, ∀ label ∈ span.label, ∀ c ∈ label, Text.isBlank c = false) ∧
    ∀ span ∈ s.spans, ∀ label ∈ span.label, ∀ c ∈ label,
      Text.isBlank c = Text.isInformationSeparator c := by
  have hmarkers : (∀ span ∈ s.spans, Text.IsWord (Marker.opening span.label)) ↔
      ∀ span ∈ s.spans, ∀ label ∈ span.label, ∀ c ∈ label, Text.isBlank c = false :=
    forall₂_congr fun span _ => Marker.isWord_opening_iff span.label
  refine ⟨⟨fun h => ?_, fun ⟨htokens, hlabels⟩ => ?_⟩, fun span hspan label hlabel => ?_⟩
  · rw [decodeLine_eq_ok_iff] at h
    obtain ⟨htokens, hlabels⟩ := isWord_of_decodeWords (fun w => Text.isWord_of_mem_words) h
    refine ⟨fun t ht => ?_, hmarkers.mp fun span hspan => hlabels span (Span.mem_sorted.mpr hspan)⟩
    obtain ⟨⟨hne, hblank⟩, hplain⟩ := htokens t ht
    exact ⟨hne, hblank, hplain⟩
  · have hwords := isWord_words (fun t ht => ⟨(htokens t ht).1, (htokens t ht).2.1⟩)
      (hmarkers.mpr hlabels)
    rw [decodeLine_eq_ok_iff, Sentence.line, Text.words_unwords hwords]
    exact decodeWords_words fun t ht => (htokens t ht).2.2
  · exact Marker.isBlank_eq_of_isLabel ((s.fits span hspan).2 label hlabel)

lemma decodeWords_inj {ws₁ ws₂ : List Text} {s₁ s₂ : Sentence} (h₁ : decodeWords ws₁ = .ok s₁)
    (h₂ : decodeWords ws₂ = .ok s₂) : s₁ = s₂ ↔ ws₁ = ws₂ := by
  constructor
  · rintro rfl
    rw [← words_of_decodeWords h₁, words_of_decodeWords h₂]
  · rintro rfl
    rw [h₁] at h₂
    cases h₂
    rfl

lemma line_of_decodeLine {line : Text} {s : Sentence} (h : decodeLine line = .ok s) :
    s.line = Text.unwords line.words := by
  rw [Sentence.line, words_of_decodeWords ((decodeLine_eq_ok_iff line s).mp h)]

lemma decodeLine_line {line : Text} {s : Sentence} (h : decodeLine line = .ok s) :
    decodeLine s.line = .ok s := by
  rw [line_of_decodeLine h, decodeLine_eq_ok_iff,
    Text.words_unwords fun w => Text.isWord_of_mem_words]
  exact (decodeLine_eq_ok_iff line s).mp h

/-- **Encoding undoes decoding** up to blanks: a line that stands for a sentence is written again
as its words with a space between neighbours, and that line is read as the same sentence. Two
lines stand for the same sentence exactly if they have the same words. -/
theorem line_decodeLine_eq_unwords {line₁ line₂ : Text} {s₁ s₂ : Sentence}
    (h₁ : decodeLine line₁ = .ok s₁) (h₂ : decodeLine line₂ = .ok s₂) :
    s₁.line = Text.unwords line₁.words ∧ decodeLine s₁.line = .ok s₁ ∧
      (s₁ = s₂ ↔ line₁.words = line₂.words) := by
  refine ⟨line_of_decodeLine h₁, decodeLine_line h₁, ?_⟩
  rw [decodeLine_eq_ok_iff] at h₁ h₂
  exact decodeWords_inj h₁ h₂

/-- Two entities without a token, between the end of one entity and the start of another. -/
def crowdedLine : Text :=
  "<START> a <END> <START:y> <END> <START:x>\t<END>  <START> b <END>".toList

/-- The same with the two entities the other way round. -/
def swappedLine : Text :=
  "<START> a <END> <START:x> <END> <START:y> <END> <START> b <END>".toList

theorem line_decodeLine_crowded :
    ∃ s₁ s₂, decodeLine crowdedLine = .ok s₁ ∧ decodeLine swappedLine = .ok s₂ ∧
      s₁.line = Text.unwords crowdedLine.words ∧ decodeLine s₁.line = .ok s₁ ∧
      (s₁ = s₂ ↔ crowdedLine.words = swappedLine.words) := by
  have h₁ := decodeLine_eq_sentence crowdedLine [.entity none [['a']], .entity (some ['y']) [],
    .entity (some ['x']) [], .entity none [['b']]] (by decide) (by decide) (by decide)
  have h₂ := decodeLine_eq_sentence swappedLine [.entity none [['a']], .entity (some ['x']) [],
    .entity (some ['y']) [], .entity none [['b']]] (by decide) (by decide) (by decide)
  exact ⟨_, _, h₁, h₂, line_decodeLine_eq_unwords h₁ h₂⟩

/-! ### Samples -/

namespace Sample

lemma ofLine_cases {l : Text} {s : Sample} (h : ofLine l = .ok s) :
    (l.isBlankLine = true ∧ s = .control) ∨
    (l.isBlankLine = false ∧ ∃ s', s = .sentence s' ∧ decodeLine l = .ok s') := by
  unfold ofLine at h
  split at h
  · rename_i hblank
    cases h
    exact Or.inl ⟨hblank, rfl⟩
  · rename_i hblank
    obtain ⟨s', hd, rfl⟩ := Except.map_eq_ok_iff.mp h
    exact Or.inr ⟨by simpa using hblank, s', rfl, hd⟩

lemma ofLine_of_decodeLine {l : Text} {s : Sentence} (hblank : ¬ l.isBlankLine = true)
    (h : decodeLine l = .ok s) : ofLine l = .ok (.sentence s) := by
  rw [ofLine, if_neg hblank, Except.map_eq_ok_iff]
  exact ⟨s, h, rfl⟩

lemma words_line_of_ofLine {l : Text} {s : Sample} (h : ofLine l = .ok s) :
    s.line = Text.unwords l.words := by
  rcases ofLine_cases h with ⟨hblank, rfl⟩ | ⟨-, s', rfl, hd⟩
  · rw [(Text.words_eq_nil_iff l).mpr hblank]
    rfl
  · exact line_of_decodeLine hd

lemma isBlankLine_line_iff {l : Text} {s : Sample} (h : ofLine l = .ok s) :
    s.line.isBlankLine = true ↔ s.isControl = true := by
  rw [words_line_of_ofLine h, ← Text.words_eq_nil_iff,
    Text.words_unwords fun w => Text.isWord_of_mem_words, Text.words_eq_nil_iff]
  rcases ofLine_cases h with ⟨hblank, rfl⟩ | ⟨hblank, s', rfl, -⟩
  · simp [hblank, isControl]
  · simp [hblank, isControl]

lemma ofLine_line {l : Text} {s : Sample} (h : ofLine l = .ok s) : ofLine s.line = .ok s := by
  have hblank := isBlankLine_line_iff h
  rcases ofLine_cases h with ⟨-, rfl⟩ | ⟨-, s', rfl, hd⟩
  · rfl
  · have hnot : ¬ (Sample.sentence s').line.isBlankLine = true := by
      rw [hblank]
      simp [isControl]
    exact ofLine_of_decodeLine hnot (decodeLine_line hd)

end Sample

end TaggedCorpus
