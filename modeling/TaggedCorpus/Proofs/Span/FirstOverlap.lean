import TaggedCorpus.Proofs.Span.Overlap

/-!
The pair of spans that the sweep for overlaps finds.

The sweep stops at the first span that overlaps one before it. The spans before that one are apart,
and all that overlap it hold the position where it starts, so there is just one of them: the span
that the sweep remembers.
-/

namespace TaggedCorpus.Span

/-- In ascending order `b` is the first span that overlaps a span before it, and `a` is the only
span before `b` that it overlaps. -/
def FirstOverlap (spans : List Span) (a b : Span) : Prop :=
  ∃ front middle rest, sorted spans = front ++ a :: middle ++ b :: rest ∧
    Apart (front ++ a :: middle) ∧ a.overlaps b = true ∧
    ∀ s ∈ front ++ middle, s.overlaps b = false

/-! ### Where the sweep stops -/

/-- One step of the sweep, whatever comes after it: either the next span overlaps the one that is
remembered, or the sweep goes on and remembers one of these two, or none. -/
lemma sweep_cons_cases (m : Option Span) (s : Span) :
    (∃ f, m = some f ∧ f.overlaps s = true ∧ ∀ rest, sweep m (s :: rest) = some (f, s)) ∨
      ∃ m' : Option Span, (∀ x ∈ m', x ∈ m ∨ x = s) ∧
        ∀ rest, sweep m (s :: rest) = sweep m' rest := by
  rcases m with _ | f
  · refine .inr ⟨if s.isEmpty then none else some s, fun x hx => ?_, fun rest => by rw [sweep]⟩
    split at hx
    · cases hx
    · exact .inr (Option.mem_some_iff.mp hx).symm
  · by_cases he : s.isEmpty = true
    · by_cases hin : (f.start < s.start && s.start < f.stop) = true
      · refine .inl ⟨f, rfl, ?_, fun rest => by rw [sweep, if_pos he, if_pos hin]⟩
        simp only [Bool.and_eq_true, decide_eq_true_eq] at hin
        exact (overlaps_iff_of_isEmpty f he).mpr hin
      · exact .inr ⟨some f, fun x hx => .inl hx, fun rest => by rw [sweep, if_pos he, if_neg hin]⟩
    · by_cases hover : f.overlaps s = true
      · exact .inl ⟨f, rfl, hover, fun rest => by rw [sweep, if_neg he, if_pos hover]⟩
      · refine .inr ⟨some (if f.stop < s.stop then s else f), fun x hx => ?_,
          fun rest => by rw [sweep, if_neg he, if_neg hover]⟩
        rw [Option.mem_some_iff] at hx
        split at hx
        · exact .inr hx.symm
        · exact .inl (Option.mem_some_iff.mpr hx)

lemma exists_of_sweep_eq_some {m : Option Span} {spans : List Span} {a b : Span}
    (h : sweep m spans = some (a, b)) :
    ∃ before rest, spans = before ++ b :: rest ∧ sweep m before = none ∧
      (a ∈ m ∨ a ∈ before) ∧ a.overlaps b = true := by
  induction spans generalizing m with
  | nil => simp [sweep] at h
  | cons s spans ih =>
    rcases sweep_cons_cases m s with ⟨f, rfl, hover, hstop⟩ | ⟨m', hm', hgo⟩
    · rw [hstop] at h
      cases h
      exact ⟨[], spans, rfl, rfl, .inl rfl, hover⟩
    · rw [hgo] at h
      obtain ⟨before, rest, rfl, hnone, hmem, hover⟩ := ih h
      refine ⟨s :: before, rest, rfl, by rw [hgo, hnone], ?_, hover⟩
      rcases hmem with hmem | hmem
      · rcases hm' a hmem with hmem | rfl
        · exact .inl hmem
        · exact .inr List.mem_cons_self
      · exact .inr (List.mem_cons_of_mem s hmem)

/-! ### The one span that is overlapped -/

lemma start_mem_of_overlaps {a b : Span} (hle : a.le b = true) (h : a.overlaps b = true) :
    a.start ≤ b.start ∧ b.start < a.stop := by
  rw [le_iff] at hle
  rw [overlaps_iff] at h
  omega

lemma overlaps_eq_false_of_apart {a s b : Span} (hs : s.le b = true) (ha : a.le b = true)
    (hapart : a.overlaps s = false) (hover : a.overlaps b = true) : s.overlaps b = false := by
  -- otherwise both spans would hold the position where `b` starts
  by_contra h
  have hsb := start_mem_of_overlaps hs (by simpa using h)
  have hab := start_mem_of_overlaps ha hover
  rw [overlaps_eq_false_iff] at hapart
  omega

lemma firstOverlap_of_findOverlap {spans : List Span} {a b : Span}
    (h : findOverlap spans = some (a, b)) : FirstOverlap spans a b := by
  obtain ⟨before, rest, hsplit, hnone, hmem, hover⟩ := exists_of_sweep_eq_some h
  have hsorted := pairwise_sorted spans
  rw [hsplit, List.pairwise_append] at hsorted
  have hle : ∀ s ∈ before, s.le b = true := fun s hs => hsorted.2.2 s hs b List.mem_cons_self
  have hapart : Apart before := (sweep_none_eq_none_iff hsorted.1).mp hnone
  have ha : a ∈ before := by simpa using hmem
  obtain ⟨front, middle, rfl⟩ := List.append_of_mem ha
  refine ⟨front, middle, rest, hsplit, hapart, hover, fun s hs => ?_⟩
  have hs' : s ∈ front ++ a :: middle := by
    rw [List.mem_append, List.mem_cons]
    exact (List.mem_append.mp hs).imp_right .inr
  have has : a.overlaps s = false :=
    List.rel_of_pairwise_cons (hapart.perm List.perm_middle) hs
  exact overlaps_eq_false_of_apart (hle s hs') (hle a ha) has hover

/-! ### There is one first overlap -/

lemma isPrefix_of_apart {before before' rest : List Span} {b : Span}
    (h : ¬ Apart (before ++ [b])) (hapart : Apart before')
    (hfront : before' <+: before ++ b :: rest) : before' <+: before := by
  -- a longer prefix than `before` would have `b` in it, and so would not be apart
  have hb : before ++ [b] <+: before ++ b :: rest := ⟨rest, by simp⟩
  rcases List.prefix_or_prefix_of_prefix hb hfront with hlong | hshort
  · exact absurd (List.Pairwise.sublist hlong.sublist hapart) h
  · rcases List.prefix_concat_iff.mp hshort with rfl | hshort
    · exact absurd hapart h
    · exact hshort

lemma not_apart_concat {front middle : List Span} {a b : Span} (h : a.overlaps b = true) :
    ¬ Apart (front ++ a :: middle ++ [b]) := by
  intro hapart
  have hab := (List.pairwise_append.mp hapart).2.2 a (by simp) b List.mem_cons_self
  rw [h] at hab
  cases hab

lemma FirstOverlap.unique {spans : List Span} {a b a' b' : Span} (h : FirstOverlap spans a b)
    (h' : FirstOverlap spans a' b') : a' = a ∧ b' = b := by
  obtain ⟨front, middle, rest, hsplit, hapart, hover, honly⟩ := h
  obtain ⟨front', middle', rest', hsplit', hapart', hover', -⟩ := h'
  rw [hsplit] at hsplit'
  -- of the two prefixes without an overlap neither reaches past the other
  have hbefore : front ++ a :: middle = front' ++ a' :: middle' := by
    refine List.IsPrefix.eq_of_length_le
      (isPrefix_of_apart (not_apart_concat hover') hapart ⟨_, hsplit'⟩)
      (isPrefix_of_apart (not_apart_concat hover) hapart' ⟨_, hsplit'.symm⟩).length_le
  rw [hbefore] at hsplit'
  obtain ⟨rfl, -⟩ := List.cons.inj (List.append_cancel_left hsplit')
  refine ⟨?_, rfl⟩
  have ha' : a' ∈ front ++ a :: middle := by simp [hbefore]
  by_contra hne
  have hfalse := honly a' (by simpa [hne] using ha')
  rw [hover'] at hfalse
  cases hfalse

lemma apart_iff_getElem (spans : List Span) :
    Apart spans ↔ ∀ (i j : Nat) (hi : i < spans.length) (hj : j < spans.length), i ≠ j →
      spans[i].overlaps spans[j] = false := by
  rw [Apart, List.pairwise_iff_getElem]
  refine ⟨fun h i j hi hj hne => ?_, fun h i j hi hj hlt => h i j hi hj (Nat.ne_of_lt hlt)⟩
  rcases Nat.lt_or_gt_of_ne hne with hlt | hlt
  · exact h i j hi hj hlt
  · rw [overlaps_comm]
    exact h j i hj hi hlt

/-- **The sweep for overlaps** finds nothing exactly if no two of the spans overlap, and otherwise
the first span in ascending order that overlaps one before it, with the one that it overlaps. -/
theorem findOverlap_eq_iff (spans : List Span) :
    (findOverlap spans = none ↔
      ∀ (i j : Nat) (hi : i < spans.length) (hj : j < spans.length), i ≠ j →
        spans[i].overlaps spans[j] = false) ∧
    ∀ a b, findOverlap spans = some (a, b) ↔ FirstOverlap spans a b := by
  refine ⟨by rw [findOverlap_eq_none_iff, apart_iff_getElem], fun a b =>
    ⟨firstOverlap_of_findOverlap, fun h => ?_⟩⟩
  cases hfind : findOverlap spans with
  | none =>
    obtain ⟨front, middle, rest, hsplit, -, hover, -⟩ := h
    have hapart := ((findOverlap_eq_none_iff spans).mp hfind).perm (sorted_perm spans).symm
    rw [hsplit] at hapart
    have hconcat : (front ++ a :: middle ++ [b]).Sublist (front ++ a :: middle ++ b :: rest) :=
      List.Sublist.append_left (by simp) _
    exact absurd (List.Pairwise.sublist hconcat hapart) (not_apart_concat hover)
  | some p =>
    obtain ⟨rfl, rfl⟩ := h.unique (firstOverlap_of_findOverlap hfind)
    rfl

end TaggedCorpus.Span
