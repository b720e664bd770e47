import TaggedCorpus.Projection
import TaggedCorpus.Proofs.Result
import TaggedCorpus.Proofs.Span.Bounds
import TaggedCorpus.Proofs.Span.Order

/-!
Tokens counted from the start of a sentence.

Tokens are chosen by their bounds, and their bounds are all that is kept of them. So the spans of
a sentence are, moved back to where it starts, the tokens within it as often as they are given,
and the order of the tokens does not count. Moving a sentence and its tokens together changes
neither.
-/

namespace TaggedCorpus.Span

/-! ### Counting from the start of a span -/

lemma of?_relativeTo {outer s : Span} (h : outer.contains s = true) :
    of? (s.start - outer.start) (s.stop - outer.start) none = .ok (s.relativeTo outer) := by
  rw [contains_iff] at h
  have hle := s.start_le_stop
  refine of?_eq_ok_iff.mpr ⟨?_, ?_, rfl⟩
  · simp only [relativeTo]
    omega
  · simp only [relativeTo]
    omega

/-- The token spans within a sentence, where each is made anew from its bounds as they are counted
from the start of the sentence. -/
def buildTokens (sentence : Span) (tokens : List Span) : Except SpanFault (List Span) :=
  ((sentence.within tokens).mapM fun s =>
    of? (s.start - sentence.start) (s.stop - sentence.start) none).map sorted

lemma buildTokens_eq_ok (sentence : Span) (tokens : List Span) :
    sentence.buildTokens tokens = .ok (sentence.projectTokens tokens) := by
  refine Except.map_eq_ok_iff.mpr ⟨_, Except.mapM_eq_ok_map fun s hs => ?_, rfl⟩
  exact of?_relativeTo (List.mem_filter.mp hs).2

lemma stop_relativeTo_le {outer s : Span} (h : outer.contains s = true) :
    (s.relativeTo outer).stop ≤ outer.stop - outer.start := by
  rw [contains_iff] at h
  simp only [relativeTo]
  omega

lemma mem_projectTokens {sentence s : Span} {tokens : List Span}
    (h : s ∈ sentence.projectTokens tokens) :
    ∃ token ∈ tokens, sentence.contains token = true ∧ token.relativeTo sentence = s := by
  obtain ⟨token, htoken, rfl⟩ := List.mem_map.mp (mem_sorted.mp h)
  obtain ⟨hmem, hcontains⟩ := List.mem_filter.mp htoken
  exact ⟨token, hmem, hcontains, rfl⟩

/-! ### Which tokens are given -/

lemma projectTokens_perm (sentence : Span) {tokens tokens' : List Span}
    (h : tokens.Perm tokens') :
    (sentence.projectTokens tokens).Perm (sentence.projectTokens tokens') :=
  (sorted_perm _).trans (((h.filter _).map _).trans (sorted_perm _).symm)

lemma projectTokens_cons_perm {sentence s : Span} (h : sentence.contains s = true)
    (tokens : List Span) :
    (sentence.projectTokens (s :: tokens)).Perm
      (s.relativeTo sentence :: sentence.projectTokens tokens) := by
  have hcons : sentence.within (s :: tokens) = s :: sentence.within tokens :=
    List.filter_cons_of_pos h
  rw [projectTokens, hcons, List.map_cons]
  exact (sorted_perm _).trans ((sorted_perm _).symm.cons _)

lemma projectTokens_cons_of_not_contains {sentence s : Span} (h : ¬ sentence.contains s = true)
    (tokens : List Span) :
    sentence.projectTokens (s :: tokens) = sentence.projectTokens tokens := by
  have hcons : sentence.within (s :: tokens) = sentence.within tokens :=
    List.filter_cons_of_neg h
  rw [projectTokens, hcons, projectTokens]

/-! ### What the spans of a sentence are -/

/-- Spans without labels, in ascending order, whose bounds are those of the tokens within a
sentence, each as often as it occurs, counted from the start of the sentence. -/
structure IsProjection (sentence : Span) (tokens spans : List Span) : Prop where
  unlabelled : ∀ s ∈ spans, s.label = none
  ascending : spans.Pairwise fun a b => a.le b = true
  bounds : (spans.map fun s => (sentence.start + s.start, sentence.start + s.stop)).Perm
    ((tokens.filter fun t => sentence.start ≤ t.start && t.stop ≤ sentence.stop).map
      fun t => (t.start, t.stop))

lemma eq_of_perm_of_ascending {spans spans' : List Span} (hlabel : ∀ s ∈ spans, s.label = none)
    (h : spans.Pairwise fun a b => a.le b = true) (h' : spans'.Pairwise fun a b => a.le b = true)
    (hp : spans.Perm spans') : spans = spans' := by
  refine List.Perm.eq_of_pairwise (fun a b ha hb hab hba => ?_) h h' hp
  rw [le_iff] at hab hba
  ext
  · omega
  · omega
  · rw [hlabel a ha, hlabel b (hp.mem_iff.mpr hb)]

lemma isProjection_projectTokens (sentence : Span) (tokens : List Span) :
    IsProjection sentence tokens (sentence.projectTokens tokens) where
  unlabelled s hs := by
    obtain ⟨token, -, -, rfl⟩ := mem_projectTokens hs
    rfl
  ascending := pairwise_sorted _
  bounds := by
    have hback : ∀ t ∈ sentence.within tokens,
        (sentence.start + (t.relativeTo sentence).start,
          sentence.start + (t.relativeTo sentence).stop) = (t.start, t.stop) := by
      intro t ht
      have hle := t.start_le_stop
      have hcontains := contains_iff.mp (List.mem_filter.mp ht).2
      simp only [relativeTo, Prod.mk.injEq]
      omega
    refine ((sorted_perm _).map _).trans (List.Perm.of_eq ?_)
    rw [List.map_map]
    exact List.map_congr_left hback

/-- The span without a label that has these bounds, if they are the bounds of one. -/
def ofBounds (bounds : Nat × Nat) : Span where
  start := bounds.1
  stop := max bounds.1 bounds.2
  start_le_stop := Nat.le_max_left _ _

lemma map_ofBounds_relativeTo (sentence : Span) {spans : List Span}
    (h : ∀ s ∈ spans, s.label = none) :
    (spans.map fun s => (sentence.start + s.start, sentence.start + s.stop)).map
      (fun bounds => (ofBounds bounds).relativeTo sentence) = spans := by
  rw [List.map_map]
  refine (List.map_congr_left fun s hs => ?_).trans (List.map_id spans)
  have hle := s.start_le_stop
  ext
  · simp only [Function.comp_apply, relativeTo, ofBounds, id_eq]
    omega
  · simp only [Function.comp_apply, relativeTo, ofBounds, id_eq]
    omega
  · simp only [Function.comp_apply, relativeTo, id_eq, h s hs]

lemma IsProjection.eq {sentence : Span} {tokens spans : List Span}
    (h : IsProjection sentence tokens spans) : spans = sentence.projectTokens tokens := by
  have hspec := isProjection_projectTokens sentence tokens
  refine eq_of_perm_of_ascending h.unlabelled h.ascending hspec.ascending ?_
  rw [← map_ofBounds_relativeTo sentence h.unlabelled,
    ← map_ofBounds_relativeTo sentence hspec.unlabelled]
  exact (h.bounds.trans hspec.bounds.symm).map _

/-! ### Counting through an enclosing span -/

section Enclosed

variable {outer sentence inner s : Span}

lemma contains_trans (h : outer.contains sentence = true) (hs : sentence.contains s = true) :
    outer.contains s = true := by
  rw [contains_iff] at *
  omega

lemma contains_relativeTo (hinner : sentence.shift outer.start = .ok inner)
    (hs : outer.contains s = true) : inner.contains (s.relativeTo outer) = sentence.contains s := by
  obtain ⟨hstart, hstop, -⟩ := shift_eq_ok_iff.mp hinner
  have hle := s.start_le_stop
  rw [Bool.eq_iff_iff]
  simp only [contains_iff, relativeTo] at hs ⊢
  omega

lemma relativeTo_relativeTo (hinner : sentence.shift outer.start = .ok inner) :
    (s.relativeTo outer).relativeTo inner = s.relativeTo sentence := by
  obtain ⟨hstart, hstop, -⟩ := shift_eq_ok_iff.mp hinner
  ext
  · simp only [relativeTo]
    omega
  · simp only [relativeTo]
    omega
  · rfl

open List in
lemma projectTokens_projectTokens (hcontains : outer.contains sentence = true)
    (hinner : sentence.shift outer.start = .ok inner) (tokens : List Span) :
    inner.projectTokens (outer.projectTokens tokens) = sentence.projectTokens tokens := by
  have hfilter : ((outer.within tokens).map (·.relativeTo outer)).filter inner.contains =
      (sentence.within tokens).map (·.relativeTo outer) := by
    rw [List.filter_map]
    congr 1
    rw [within, List.filter_filter]
    refine List.filter_congr fun s _ => ?_
    by_cases hs : outer.contains s = true
    · simp [hs, contains_relativeTo hinner hs]
    · have hnot : ¬ sentence.contains s = true := fun h => hs (contains_trans hcontains h)
      simp [hs, hnot]
  -- both lists are in ascending order, so it is enough that they have the same spans
  have hprojection := isProjection_projectTokens inner (outer.projectTokens tokens)
  refine eq_of_perm_of_ascending hprojection.unlabelled hprojection.ascending
    (pairwise_sorted _) ?_
  calc inner.projectTokens (outer.projectTokens tokens)
      ~ ((outer.projectTokens tokens).filter inner.contains).map fun s => relativeTo s inner :=
        sorted_perm _
    _ ~ (((outer.within tokens).map (·.relativeTo outer)).filter inner.contains).map
          fun s => relativeTo s inner := ((sorted_perm _).filter _).map _
    _ = ((sentence.within tokens).map (·.relativeTo outer)).map fun s => relativeTo s inner := by
        rw [hfilter]
    _ = (sentence.within tokens).map fun s => relativeTo s sentence := by
        rw [List.map_map]
        exact List.map_congr_left fun s _ => relativeTo_relativeTo hinner
    _ ~ sentence.projectTokens tokens := (sorted_perm _).symm

end Enclosed

end TaggedCorpus.Span
