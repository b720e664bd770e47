import TaggedCorpus.Proofs.Span.Projection

/-!
Sentences cut out of a text, with their tokens.

A sentence can be cut out exactly if it lies within the text, and its tokens then have the text
that they have in the document. It can be cut out of a part of the text that it lies within just
as well, for what is counted from its start is the same.
-/

namespace TaggedCorpus

/-! ### Slices -/

namespace Text

variable (t : Text)

lemma length_slice {start stop : Nat} (h : stop ≤ t.length) :
    (t.slice start stop).length = stop - start := by
  rw [slice, List.length_drop, List.length_take, Nat.min_eq_left h]

lemma getElem?_slice (start stop i : Nat) :
    (t.slice start stop)[i]? = if start + i < stop then t[start + i]? else none := by
  rw [slice, List.getElem?_drop, List.getElem?_take]

lemma slice_slice {a b c d : Nat} (h : a + d ≤ b) :
    (t.slice a b).slice c d = t.slice (a + c) (a + d) := by
  refine List.ext_getElem? fun i => ?_
  rw [getElem?_slice, getElem?_slice, getElem?_slice, Nat.add_assoc]
  by_cases hi : c + i < d
  · rw [if_pos hi, if_pos (by omega), if_pos (by omega)]
  · rw [if_neg hi, if_neg (by omega)]

end Text

/-! ### Sentences with their tokens -/

namespace TokenizedText

lemma of?_eq_ok_iff {text : Text} {spans : List Span} {t : TokenizedText} :
    of? text spans = .ok t ↔ t.text = text ∧ t.spans = spans := by
  unfold of?
  constructor
  · intro h
    split at h
    · cases h
    · cases h
      exact ⟨rfl, rfl⟩
  · rintro ⟨rfl, rfl⟩
    split
    · rename_i s hs
      have hmem := List.mem_of_find?_eq_some hs
      have hlt := List.find?_some hs
      have := t.within s hmem
      simp only [decide_eq_true_eq] at hlt
      omega
    · rfl

lemma coveredText_of_mem {t : TokenizedText} {s : Span} (h : s ∈ t.spans) :
    s.coveredText t.text = .ok (t.text.slice s.start s.stop) := by
  rw [Span.coveredText, if_neg (Nat.not_lt.mpr (t.within s h))]

end TokenizedText

variable {text : Text} {sentence : Span} {tokens : List Span} {t : TokenizedText}

lemma projectSentence_eq_ok_iff :
    projectSentence text sentence tokens = .ok t ↔
      sentence.stop ≤ text.length ∧ t.text = text.slice sentence.start sentence.stop ∧
        t.spans = sentence.projectTokens tokens := by
  unfold projectSentence Span.coveredText
  by_cases h : text.length < sentence.stop
  · have hnot : ¬ sentence.stop ≤ text.length := by omega
    simp [h, hnot]
  · have hle : sentence.stop ≤ text.length := by omega
    simp only [if_neg h, TokenizedText.of?_eq_ok_iff, hle, true_and]

lemma projectSentence_eq_error (h : text.length < sentence.stop) :
    projectSentence text sentence tokens = .error (.exceeds ⟨sentence, text.length⟩) := by
  rw [projectSentence, Span.coveredText, if_pos h]

lemma exists_projectSentence (h : sentence.stop ≤ text.length) (tokens : List Span) :
    ∃ t, projectSentence text sentence tokens = .ok t := by
  have hwithin : ∀ s ∈ sentence.projectTokens tokens,
      s.stop ≤ (text.slice sentence.start sentence.stop).length := by
    intro s hs
    obtain ⟨token, -, hcontains, rfl⟩ := Span.mem_projectTokens hs
    rw [Text.length_slice text h]
    exact Span.stop_relativeTo_le hcontains
  exact ⟨⟨_, _, hwithin⟩, projectSentence_eq_ok_iff.mpr ⟨h, rfl, rfl⟩⟩

lemma exists_projectSentence_eq_error_iff :
    (∃ f, projectSentence text sentence tokens = .error f) ↔ text.length < sentence.stop := by
  constructor
  · rintro ⟨f, hf⟩
    by_contra h
    obtain ⟨t, ht⟩ := exists_projectSentence (Nat.not_lt.mp h) tokens
    rw [ht] at hf
    cases hf
  · exact fun h => ⟨_, projectSentence_eq_error h⟩

lemma tokens_of_projectSentence (h : projectSentence text sentence tokens = .ok t) :
    t.tokens =
      t.spans.map fun s => text.slice (sentence.start + s.start) (sentence.start + s.stop) := by
  obtain ⟨hstop, htext, hspans⟩ := projectSentence_eq_ok_iff.mp h
  rw [TokenizedText.tokens]
  refine List.map_congr_left fun s hs => ?_
  have hle := t.within s hs
  have hbounds := sentence.start_le_stop
  rw [htext, Text.length_slice text hstop] at hle
  rw [htext, Text.slice_slice text (by omega)]

/-- **Projection keeps the text of every token.** Building the spans never fails, so a sentence is
refused exactly if it reaches past the end of the text. Otherwise its text is what it covers; its
spans have no labels, lie within that text and stand in ascending order; moved back they are the
tokens within the sentence; and the text of each of them is what stands there in the document. -/
theorem projectSentence_keeps_tokens (text : Text) (sentence : Span) (tokens : List Span) :
    sentence.buildTokens tokens = .ok (sentence.projectTokens tokens) ∧
    ((∃ f, projectSentence text sentence tokens = .error f) ↔ text.length < sentence.stop) ∧
    ∀ t, projectSentence text sentence tokens = .ok t ↔
      sentence.stop ≤ text.length ∧ t.text = text.slice sentence.start sentence.stop ∧
        sentence.IsProjection tokens t.spans ∧ (∀ s ∈ t.spans, s.stop ≤ t.text.length) ∧
        t.spans.mapM (·.coveredText t.text) = .ok t.tokens ∧
        t.tokens = t.spans.map fun s =>
          text.slice (sentence.start + s.start) (sentence.start + s.stop) := by
  refine ⟨Span.buildTokens_eq_ok sentence tokens, exists_projectSentence_eq_error_iff,
    fun t => ⟨fun h => ?_, fun ⟨hstop, htext, hspans, _⟩ => ?_⟩⟩
  · obtain ⟨hstop, htext, hspans⟩ := projectSentence_eq_ok_iff.mp h
    refine ⟨hstop, htext, ?_, t.within, ?_, tokens_of_projectSentence h⟩
    · rw [hspans]
      exact Span.isProjection_projectTokens sentence tokens
    · exact Except.mapM_eq_ok_map fun s hs => TokenizedText.coveredText_of_mem hs
  · exact projectSentence_eq_ok_iff.mpr ⟨hstop, htext, hspans.eq⟩

/-- **Projection composes.** A sentence within a part of the text can be cut out of that part,
with the tokens of the part, and comes to the same text with the same spans as when it is cut out
of the whole text. No step of either way fails. -/
theorem projectSentence_within_part {text : Text} {outer sentence : Span}
    (houter : outer.stop ≤ text.length) (hcontains : outer.contains sentence = true)
    (tokens : List Span) :
    ∃ covered inner t,
      outer.coveredText text = .ok covered ∧ sentence.shift outer.start = .ok inner ∧
      projectSentence text sentence tokens = .ok t ∧
      projectSentence covered inner (outer.projectTokens tokens) = .ok t ∧
      outer.buildTokens tokens = .ok (outer.projectTokens tokens) ∧
      sentence.buildTokens tokens = .ok t.spans ∧
      inner.buildTokens (outer.projectTokens tokens) = .ok t.spans := by
  obtain ⟨hstart, hstop⟩ := Span.contains_iff.mp hcontains
  have hle := sentence.start_le_stop
  obtain ⟨inner, hinner⟩ := Span.exists_shift (Int.ofNat_le.mpr hstart)
  obtain ⟨hinnerStart, hinnerStop, -⟩ := Span.shift_eq_ok_iff.mp hinner
  obtain ⟨t, ht⟩ := exists_projectSentence (Nat.le_trans hstop houter) tokens
  obtain ⟨-, htext, hspans⟩ := projectSentence_eq_ok_iff.mp ht
  have hsame := Span.projectTokens_projectTokens hcontains hinner tokens
  refine ⟨text.slice outer.start outer.stop, inner, t, ?_, hinner, ht, ?_,
    Span.buildTokens_eq_ok outer tokens, ?_, ?_⟩
  · rw [Span.coveredText, if_neg (by omega)]
  · refine projectSentence_eq_ok_iff.mpr ⟨?_, ?_, by rw [hsame, hspans]⟩
    · rw [Text.length_slice text houter]
      omega
    · rw [htext, Text.slice_slice text (by omega)]
      congr 1 <;> omega
  · rw [Span.buildTokens_eq_ok, hspans]
  · rw [Span.buildTokens_eq_ok, hsame, hspans]

/-- A text of two sentences. -/
def twoSentences : Text := "It rains. We stay in".toList

/-- The text from its second word on. -/
def latterPart : Span := { start := 3, stop := 20 }

/-- The second sentence. -/
def lastSentence : Span := { start := 10, stop := 20 }

/-- The words of the text in no order, one of them given twice. -/
def scatteredTokens : List Span :=
  [{ start := 18, stop := 20 }, { start := 0, stop := 2 }, { start := 13, stop := 17 },
    { start := 3, stop := 8 }, { start := 10, stop := 12 }, { start := 18, stop := 20 }]

theorem projectSentence_within_part_last :
    latterPart.stop ≤ twoSentences.length ∧ latterPart.contains lastSentence = true ∧
    ∃ covered inner t,
      latterPart.coveredText twoSentences = .ok covered ∧
      lastSentence.shift latterPart.start = .ok inner ∧
      projectSentence twoSentences lastSentence scatteredTokens = .ok t ∧
      projectSentence covered inner (latterPart.projectTokens scatteredTokens) = .ok t := by
  have hstop : latterPart.stop ≤ twoSentences.length := by decide
  have hcontains : latterPart.contains lastSentence = true := by decide
  obtain ⟨covered, inner, t, hcovered, hinner, ht, ht', -⟩ :=
    projectSentence_within_part hstop hcontains scatteredTokens
  exact ⟨hstop, hcontains, covered, inner, t, hcovered, hinner, ht, ht'⟩

end TaggedCorpus
