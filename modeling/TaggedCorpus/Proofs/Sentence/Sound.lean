import TaggedCorpus.Proofs.Span.Overlap
import TaggedCorpus.Sentence.Basic

/-!
When spans over tokens make a sentence.

The check passes exactly if each span lies within the tokens and has a label that can be one, no
span occurs twice, and no two overlap. None of this depends on the order of the spans, so the
spans of a sentence can be put into ascending order.
-/

namespace TaggedCorpus.Sentence

/-- The span lies within this many tokens, and its label can be one. -/
def Fits (tokens : Nat) (span : Span) : Prop :=
  span.stop ≤ tokens ∧ ∀ l ∈ span.label, isLabel l = true

lemma spanFault?_eq_none_iff (tokens : Nat) (span : Span) :
    spanFault? tokens span = none ↔ Fits tokens span := by
  unfold spanFault? Fits
  by_cases h : tokens < span.stop
  · have hnot : ¬ span.stop ≤ tokens := by omega
    simp [h, hnot]
  · rw [if_neg h]
    have hstop : span.stop ≤ tokens := by omega
    cases hl : span.label with
    | none => simp [hstop]
    | some label => by_cases hlab : isLabel label = true <;> simp [hlab, hstop]

/-- **Soundness of a sentence**: what its check comes to. -/
theorem fault?_eq_none_iff (tokens : Nat) (spans : List Span) :
    fault? tokens spans = none ↔
      (∀ span ∈ spans, Fits tokens span) ∧ spans.Nodup ∧ Span.Apart spans := by
  unfold fault?
  cases hf : spans.findSome? (spanFault? tokens) with
  | some f =>
    obtain ⟨s, hs, hfs⟩ := List.exists_of_findSome?_eq_some hf
    have hnot : ¬ ∀ span ∈ spans, Fits tokens span := by
      intro hall
      rw [(spanFault?_eq_none_iff tokens s).mpr (hall s hs)] at hfs
      simp at hfs
    simp [hnot]
  | none =>
    have hall : ∀ span ∈ spans, Fits tokens span := fun s hs =>
      (spanFault?_eq_none_iff tokens s).mp (List.findSome?_eq_none_iff.mp hf s hs)
    by_cases hn : spans.Nodup
    · simp [hn, Span.findOverlap_eq_none_iff, and_iff_right hall]
    · simp [hn]

lemma fault?_of_chained {tokens : Nat} {spans : List Span} (hfits : ∀ s ∈ spans, Fits tokens s)
    (hchained : Span.Chained spans) :
    fault? tokens spans = if spans.Nodup then none else some .duplicate := by
  have hnone : spans.findSome? (spanFault? tokens) = none :=
    List.findSome?_eq_none_iff.mpr fun s hs => (spanFault?_eq_none_iff tokens s).mpr (hfits s hs)
  have hover := (Span.findOverlap_eq_none_iff spans).mpr hchained.apart
  simp only [fault?, hnone, hover, Option.map_none]

lemma fault?_perm {tokens : Nat} {spans spans' : List Span} (hp : spans.Perm spans')
    (h : fault? tokens spans = none) : fault? tokens spans' = none := by
  rw [fault?_eq_none_iff] at h ⊢
  obtain ⟨hfits, hnodup, hapart⟩ := h
  exact ⟨fun s hs => hfits s (hp.mem_iff.mpr hs), hp.nodup_iff.mp hnodup, hapart.perm hp⟩

lemma fault?_sublist {tokens : Nat} {spans spans' : List Span} (hs : spans'.Sublist spans)
    (h : fault? tokens spans = none) : fault? tokens spans' = none := by
  rw [fault?_eq_none_iff] at h ⊢
  obtain ⟨hfits, hnodup, hapart⟩ := h
  exact ⟨fun s hmem => hfits s (hs.subset hmem), hnodup.sublist hs, List.Pairwise.sublist hs hapart⟩

/-! ### Building sentences -/

lemma of?_eq_ok {tokens : List Text} {spans : List Span}
    (h : fault? tokens.length spans = none) : of? tokens spans = .ok ⟨tokens, spans, h⟩ := by
  unfold of?
  split
  · rename_i f hf
    rw [h] at hf
    simp at hf
  · rfl

lemma of?_eq_error {tokens : List Text} {spans : List Span} {f : SentenceFault}
    (h : fault? tokens.length spans = some f) : of? tokens spans = .error f := by
  unfold of?
  split
  · rename_i f' hf
    rw [h] at hf
    cases hf
    rfl
  · rename_i hf
    rw [h] at hf
    simp at hf

lemma of?_eq_ok_iff (tokens : List Text) (spans : List Span) (s : Sentence) :
    of? tokens spans = .ok s ↔ s.tokens = tokens ∧ s.spans = spans := by
  constructor
  · intro h
    cases hf : fault? tokens.length spans with
    | none =>
      rw [of?_eq_ok hf] at h
      cases h
      exact ⟨rfl, rfl⟩
    | some f =>
      rw [of?_eq_error hf] at h
      simp at h
  · rintro ⟨rfl, rfl⟩
    exact of?_eq_ok s.sound

/-! ### What holds of every sentence -/

lemma fits (s : Sentence) : ∀ span ∈ s.spans, Fits s.tokens.length span :=
  ((fault?_eq_none_iff _ _).mp s.sound).1

lemma nodup (s : Sentence) : s.spans.Nodup := ((fault?_eq_none_iff _ _).mp s.sound).2.1

lemma apart (s : Sentence) : Span.Apart s.spans := ((fault?_eq_none_iff _ _).mp s.sound).2.2

/-- The sentence with its spans in ascending order. -/
def sorted (s : Sentence) : Sentence where
  tokens := s.tokens
  spans := Span.sorted s.spans
  sound := fault?_perm (Span.sorted_perm s.spans).symm s.sound

@[simp] lemma tokens_sorted (s : Sentence) : s.sorted.tokens = s.tokens := rfl

@[simp] lemma spans_sorted (s : Sentence) : s.sorted.spans = Span.sorted s.spans := rfl

lemma chained_sorted (s : Sentence) : Span.Chained s.sorted.spans := s.apart.chained_sorted

end TaggedCorpus.Sentence

namespace TaggedCorpus

lemma Sample.of?_eq_ok_iff {tokens : List Text} {spans : List Span} {s : Sample} :
    of? tokens spans false = .ok s ↔
      ∃ s' : Sentence, s = .sentence s' ∧ s'.tokens = tokens ∧ s'.spans = spans := by
  simp only [← Sentence.of?_eq_ok_iff]
  rw [of?, if_neg (by simp)]
  cases Sentence.of? tokens spans with
  | error f => simp
  | ok s' => simp [eq_comm]

end TaggedCorpus
