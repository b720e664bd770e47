import TaggedCorpus.Proofs.Sentence.RoundTrip

/-!
Labels on lines.

A label is free of white space, but words are also parted at the information separators. So a
label is read as it was written unless one of these is in it, whatever tokens it stands among.
-/

namespace TaggedCorpus

lemma decodeLine_line_iff_of_isPlain {s : Sentence}
    (h : ∀ t ∈ s.tokens, Text.IsWord t ∧ IsPlain t) :
    decodeLine s.line = .ok s.sorted ↔
      ∀ span ∈ s.spans, ∀ label ∈ span.label, ∀ c ∈ label,
        Text.isInformationSeparator c = false := by
  have hmarkers : (∀ span ∈ s.spans, Text.IsWord (Marker.opening span.label)) ↔
      ∀ span ∈ s.spans, ∀ label ∈ span.label, ∀ c ∈ label,
        Text.isInformationSeparator c = false := by
    refine forall₂_congr fun span hspan => ?_
    rw [Marker.isWord_opening_iff]
    refine forall₂_congr fun label hlabel => forall₂_congr fun c hc => ?_
    rw [Marker.isBlank_eq_of_isLabel ((s.fits span hspan).2 label hlabel) c hc]
  rw [← hmarkers, decodeLine_eq_ok_iff]
  constructor
  · intro hread span hspan
    exact (isWord_of_decodeWords (fun w => Text.isWord_of_mem_words) hread).2 span
      (Span.mem_sorted.mpr hspan)
  · intro hlabels
    have hwords := isWord_words (fun t ht => (h t ht).1) hlabels
    rw [Sentence.line, Text.words_unwords hwords]
    exact decodeWords_words fun t ht => (h t ht).2

lemma Sentence.sorted_of_singleton {s : Sentence} {span : Span} (h : s.spans = [span]) :
    s.sorted = s := by
  cases s
  subst h
  simp [Sentence.sorted, Span.sorted]

/-- **Labels on lines**: a sample with plain tokens and one labelled span is read from its line
exactly if no information separator is in the label. -/
theorem decodeLine_line_labelled_iff {tokens : List Text} {span : Span} {label : Text} {s : Sample}
    (htokens : ∀ t ∈ tokens, Text.IsWord t ∧ IsPlain t) (hlabel : span.label = some label)
    (hs : Sample.of? tokens [span] false = .ok s) :
    (decodeLine s.line).map Sample.sentence = .ok s ↔
      ∀ c ∈ label, Text.isInformationSeparator c = false := by
  obtain ⟨s', rfl, rfl, hspans⟩ := Sample.of?_eq_ok_iff.mp hs
  have hiff := decodeLine_line_iff_of_isPlain htokens
  rw [Sentence.sorted_of_singleton hspans, hspans] at hiff
  simp only [List.mem_singleton, forall_eq, hlabel, Option.mem_some_iff, forall_eq'] at hiff
  rw [← hiff, Except.map_eq_ok_iff]
  constructor
  · rintro ⟨t, ht, hst⟩
    cases hst
    exact ht
  · exact fun h => ⟨s', h, rfl⟩

/-- A span over one token with this label. -/
def labelledSpan (label : Text) : Span where
  start := 0
  stop := 1
  label := some label

/-- The sentence with one token and this span. -/
def labelledToken (label : Text) (h : isLabel label = true) : Sentence :=
  Segment.sentence [.entity (some label) [['a']]]
    (List.forall_mem_singleton.mpr ⟨by simpa using h, by decide⟩) (by simp [Segment.spansFrom])

lemma of?_labelledToken (label : Text) (h : isLabel label = true) :
    Sample.of? [['a']] [labelledSpan label] false = .ok (.sentence (labelledToken label h)) := by
  have hs : Sentence.of? [['a']] [labelledSpan label] = .ok (labelledToken label h) :=
    (Sentence.of?_eq_ok_iff _ _ _).mpr ⟨rfl, rfl⟩
  rw [Sample.of?, hs]
  rfl

/-- A token whose label has no information separator in it. -/
def wholeToken : Sentence := labelledToken ['x', '-', 'y'] (by decide)

/-- A token whose label has one. -/
def partedToken : Sentence := labelledToken ['x', '\x1c', 'y'] (by decide)

theorem decodeLine_line_labelled_tokens :
    (decodeLine wholeToken.line).map Sample.sentence = .ok (.sentence wholeToken) ∧
      ¬ (decodeLine partedToken.line).map Sample.sentence = .ok (.sentence partedToken) := by
  constructor
  · refine (decodeLine_line_labelled_iff (by decide) rfl (of?_labelledToken _ _)).mpr ?_
    intro c hc
    simp only [List.mem_cons, List.not_mem_nil, or_false] at hc
    rcases hc with rfl | rfl | rfl <;> rfl
  · refine mt (decodeLine_line_labelled_iff (by decide) rfl (of?_labelledToken _ _)).mp ?_
    intro h
    cases h '\x1c' (by simp)

/-- Not every label that a sample can have is read again from its line. -/
theorem exists_label_lost_on_line :
    ¬ ∀ (tokens : List Text) (span : Span) (label : Text) (s : Sample),
      (∀ t ∈ tokens, Text.IsWord t ∧ IsPlain t) → span.label = some label →
        Sample.of? tokens [span] false = .ok s →
          (decodeLine s.line).map Sample.sentence = .ok s := by
  intro h
  obtain ⟨s, hs, hsame⟩ := Except.map_eq_ok_iff.mp
    (h _ _ _ (.sentence partedToken) (by decide) rfl (of?_labelledToken _ _))
  cases hsame
  have hsorted : partedToken.sorted = partedToken := Sentence.sorted_of_singleton rfl
  have hread : decodeLine partedToken.line = .ok partedToken.sorted := by
    rw [hsorted]
    exact hs
  have hseparators := (decodeLine_line_iff_of_isPlain (by decide)).mp hread
  cases hseparators _ (List.mem_singleton_self _) _ rfl '\x1c' (by simp)

end TaggedCorpus
