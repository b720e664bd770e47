import TaggedCorpus.Proofs.Sentence.Segment

/-!
The order in which the spans of a sentence are stored.

Whether spans make a sentence is asked of each of them and of each two of them, so no order counts
for it, and spans can be left out. On the line the spans are put in order by their bounds. Of spans
with the same bounds that do not overlap at most one is not empty, so the stored order shows only
among the empty spans at one position.
-/

namespace TaggedCorpus

namespace Sentence

variable {spans spans' : List Span}

/-- The empty spans at a position, in the order in which they are stored. -/
def emptyAt (spans : List Span) (i : Nat) : List Span :=
  spans.filter fun s => s.isEmpty && s.start == i

lemma emptyAt_sorted (spans : List Span) (i : Nat) :
    emptyAt (Span.sorted spans) i = emptyAt spans i := by
  refine Span.filter_sorted spans fun a b ha hb => ?_
  simp only [Bool.and_eq_true, Span.isEmpty_iff, beq_iff_eq] at ha hb
  omega

lemma filter_bounds_eq (hp : spans'.Perm spans) (hapart : Span.Apart spans)
    (hempty : ∀ i, emptyAt spans' i = emptyAt spans i) (i j : Nat) :
    (spans'.filter fun s => s.start == i && s.stop == j) =
      spans.filter fun s => s.start == i && s.stop == j := by
  by_cases hij : i = j
  · subst hij
    have hfilter : ∀ l : List Span,
        (l.filter fun s => s.start == i && s.stop == i) = emptyAt l i := by
      intro l
      refine List.filter_congr fun s _ => ?_
      rw [Bool.eq_iff_iff]
      simp only [Bool.and_eq_true, Span.isEmpty_iff, beq_iff_eq]
      omega
    rw [hfilter, hfilter, hempty]
  · -- two spans with these bounds would overlap, so there is at most one
    refine (hp.filter _).eq_of_pairwise (fun a b ha hb hab _ => ?_)
      (List.Pairwise.filter _ (hapart.perm hp.symm)) (List.Pairwise.filter _ hapart)
    have hbounds := (List.mem_filter.mp ha).2
    have hbounds' := (List.mem_filter.mp hb).2
    have hle := a.start_le_stop
    simp only [Bool.and_eq_true, beq_iff_eq] at hbounds hbounds'
    rw [Span.overlaps_eq_false_iff] at hab
    omega

/-! ### Marks on the line -/

lemma closingsAt_perm (hp : spans'.Perm spans) (i : Nat) :
    closingsAt spans' i = closingsAt spans i := by
  rw [closingsAt, hp.countP_eq, closingsAt]

lemma startingAt_perm (hp : spans'.Perm spans) (hapart : Span.Apart spans)
    (hempty : ∀ i, emptyAt spans' i = emptyAt spans i) (i : Nat) :
    startingAt spans' i = startingAt spans i := by
  refine mergeSort_eq_of_classOf_eq Span.stop_le_trans Span.stop_le_total fun a => ?_
  have hclass : ∀ l : List Span,
      classOf (fun b c => decide (b.stop ≤ c.stop)) a (l.filter fun s => s.start == i) =
        l.filter fun s => s.start == i && s.stop == a.stop := by
    intro l
    rw [classOf, List.filter_filter]
    refine List.filter_congr fun s _ => ?_
    rw [Bool.eq_iff_iff]
    simp only [Bool.and_eq_true, decide_eq_true_eq, beq_iff_eq]
    omega
  rw [hclass, hclass, filter_bounds_eq hp hapart hempty]

/-- The words of a sentence show no more of the stored order than that of the empty spans at each
position. -/
lemma words_eq_of_perm {s s' : Sentence} (htokens : s'.tokens = s.tokens)
    (hp : s'.spans.Perm s.spans) (hempty : ∀ i, emptyAt s'.spans i = emptyAt s.spans i) :
    s'.words = s.words := by
  -- closings are only counted, and openings stand in order by their stops first
  have hmarks : ∀ i, marksAt s'.spans i = marksAt s.spans i := by
    intro i
    rw [marksAt, marksAt, closingsAt_perm hp, startingAt_perm hp s.apart hempty]
  rw [words, words, htokens]
  exact weave_congr (fun j _ => hmarks j) s.tokens

lemma words_sorted (s : Sentence) : s.sorted.words = s.words :=
  words_eq_of_perm rfl (Span.sorted_perm s.spans) (emptyAt_sorted s.spans)

end Sentence

/-! ### Samples -/

namespace Sample

lemma exists_of?_of_perm {s : Sentence} {spans : List Span} (hp : spans.Perm s.spans) :
    ∃ s', of? s.tokens spans false = .ok s' ∧
      ((∀ i, Sentence.emptyAt spans i = Sentence.emptyAt s.spans i) → s'.line = s.line) := by
  let s' : Sentence := ⟨s.tokens, spans, Sentence.fault?_perm hp.symm s.sound⟩
  refine ⟨.sentence s', of?_eq_ok_iff.mpr ⟨s', rfl, rfl, rfl⟩, fun hempty => ?_⟩
  have hwords : s'.words = s.words := Sentence.words_eq_of_perm rfl hp hempty
  exact congrArg Text.unwords hwords

/-- **The stored order does not matter.** Spans with which tokens make a sample make one in any
order, and it is written as the same line if the empty spans at each position keep their order, so
also if the spans are put into ascending order. With some of the spans left out the others still
make a sample. -/
theorem of?_reordered {tokens : List Text} {spans : List Span} {s : Sample}
    (h : of? tokens spans false = .ok s) :
    (∀ spans' : List Span, spans'.Perm spans → ∃ s', of? tokens spans' false = .ok s' ∧
      ((∀ i, Sentence.emptyAt spans' i = Sentence.emptyAt spans i) → s'.line = s.line)) ∧
    (∃ s', of? tokens (Span.sorted spans) false = .ok s' ∧ s'.line = s.line) ∧
    ∀ spans' : List Span, spans'.Sublist spans → ∃ s', of? tokens spans' false = .ok s' := by
  obtain ⟨s, rfl, rfl, rfl⟩ := of?_eq_ok_iff.mp h
  refine ⟨fun spans' hp => exists_of?_of_perm hp, ?_, fun spans' hs => ?_⟩
  · obtain ⟨s', hs', hline⟩ := exists_of?_of_perm (Span.sorted_perm s.spans)
    exact ⟨s', hs', hline (Sentence.emptyAt_sorted s.spans)⟩
  · have hsound := Sentence.fault?_sublist hs s.sound
    exact ⟨.sentence ⟨s.tokens, spans', hsound⟩, of?_eq_ok_iff.mpr ⟨_, rfl, rfl, rfl⟩⟩

/-- The span over the first tokens. -/
def initialSpan (n : Nat) : Span where
  start := 0
  stop := n
  start_le_stop := Nat.zero_le n

/-- The span over no token at a position, with a label. -/
def emptySpan (i : Nat) (label : Text) : Span where
  start := i
  stop := i
  label := some label
  start_le_stop := Nat.le_refl i

/-- A span that is not empty, stored between two empty ones where it stops. -/
def storedSpans : List Span := [emptySpan 2 ['x'], initialSpan 2, emptySpan 2 ['y']]

/-- The same spans, with the empty ones before the other, in their order. -/
def emptyFirst : List Span := [emptySpan 2 ['x'], emptySpan 2 ['y'], initialSpan 2]

theorem of?_reordered_emptyFirst :
    ∃ s s', of? [['a'], ['b']] storedSpans false = .ok s ∧
      of? [['a'], ['b']] emptyFirst false = .ok s' ∧ s'.line = s.line ∧
      ∃ s'', of? [['a'], ['b']] (storedSpans.drop 1) false = .ok s'' := by
  have hsound : Sentence.fault? 2 storedSpans = none := by
    rw [Sentence.fault?_eq_none_iff, Span.Apart]
    unfold Sentence.Fits
    decide
  have hstored : of? [['a'], ['b']] storedSpans false =
      .ok (.sentence ⟨[['a'], ['b']], storedSpans, hsound⟩) :=
    of?_eq_ok_iff.mpr ⟨_, rfl, rfl, rfl⟩
  obtain ⟨hperm, -, hsublist⟩ := of?_reordered hstored
  obtain ⟨s', hs', hline⟩ := hperm emptyFirst (by decide)
  obtain ⟨s'', hs''⟩ := hsublist _ (List.drop_sublist 1 storedSpans)
  exact ⟨_, s', hstored, hs', hline fun i => rfl, s'', hs''⟩

end Sample

end TaggedCorpus
