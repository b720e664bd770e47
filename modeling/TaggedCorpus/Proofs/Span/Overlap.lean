import Mathlib.Data.List.Duplicate
import TaggedCorpus.Proofs.Span.Order

/-!
What the sweep for overlaps finds, and chains of spans.

The sweep over spans in ascending order finds nothing exactly if no two of them overlap: the
span it remembers starts before all later ones and ends after all earlier ones. Spans that do
not overlap, put into ascending order, form a chain: each ends before the next one starts.
-/

namespace TaggedCorpus.Span

lemma overlaps_eq_false_iff (a b : Span) :
    a.overlaps b = false ↔ a.stop ≤ b.start ∨ b.stop ≤ a.start := by
  rw [overlaps, Bool.not_eq_false', Bool.or_eq_true, decide_eq_true_eq, decide_eq_true_eq]

lemma overlaps_comm (a b : Span) : a.overlaps b = b.overlaps a := by
  simp [overlaps, Bool.or_comm]

lemma isEmpty_iff (s : Span) : s.isEmpty = true ↔ s.start = s.stop := by simp [isEmpty]

lemma start_lt_stop {s : Span} (h : s.isEmpty = false) : s.start < s.stop := by
  have hne : ¬ s.start = s.stop := by simpa [isEmpty] using h
  exact Nat.lt_of_le_of_ne s.start_le_stop hne

lemma overlaps_iff (a b : Span) :
    a.overlaps b = true ↔ b.start < a.stop ∧ a.start < b.stop := by
  rw [← Bool.not_eq_false, overlaps_eq_false_iff, not_or, Nat.not_le, Nat.not_le]

lemma overlaps_iff_of_isEmpty {b : Span} (a : Span) (hb : b.isEmpty = true) :
    a.overlaps b = true ↔ a.start < b.start ∧ b.start < a.stop := by
  rw [isEmpty_iff] at hb
  rw [overlaps_iff, ← hb]
  exact and_comm

/-- No two of the spans overlap. -/
def Apart (spans : List Span) : Prop := spans.Pairwise fun a b => a.overlaps b = false

lemma Apart.perm {spans spans' : List Span} (h : Apart spans) (hp : spans.Perm spans') :
    Apart spans' :=
  List.Pairwise.perm h hp fun hab => by rwa [overlaps_comm]

/-! ### The sweep -/

lemma overlaps_eq_false_of_isEmpty {s x : Span} (he : s.isEmpty = true) (hx : s.le x = true) :
    s.overlaps x = false := by
  rw [isEmpty_iff] at he
  rw [le_iff] at hx
  rw [overlaps_eq_false_iff]
  omega

/-- One step of the sweep. The span that is remembered ends before the next one starts if the
two do not overlap, so the next one takes its place unless it is empty. -/
lemma sweep_some_cons {f s : Span} (rest : List Span) (hf : f.isEmpty = false)
    (h : f.le s = true) :
    sweep (some f) (s :: rest) =
      if f.overlaps s then some (f, s) else sweep (some (if s.isEmpty then f else s)) rest := by
  have hflt := start_lt_stop hf
  rw [le_iff] at h
  by_cases he : s.isEmpty = true
  · have hover : (f.start < s.start && s.start < f.stop) = f.overlaps s := by
      rw [Bool.eq_iff_iff, overlaps_iff_of_isEmpty f he, Bool.and_eq_true, decide_eq_true_eq,
        decide_eq_true_eq]
    simp only [sweep, he, if_true, hover]
  · by_cases hover : f.overlaps s = true
    · simp [sweep, he, hover]
    · have hlt : f.stop < s.stop := by
        have hslt := start_lt_stop (s := s) (by simpa using he)
        rw [overlaps_iff] at hover
        omega
      simp [sweep, he, hover, hlt]

lemma sweep_some_eq_none_iff {f : Span} {spans : List Span} (hf : f.isEmpty = false)
    (h : (f :: spans).Pairwise fun a b => a.le b = true) :
    sweep (some f) spans = none ↔ Apart (f :: spans) := by
  induction spans generalizing f with
  | nil => simp [sweep, Apart]
  | cons s rest ih =>
    have hfs : f.le s = true := List.rel_of_pairwise_cons h (by simp)
    have hsrest := h.of_cons
    have hfrest : (f :: rest).Pairwise fun a b => a.le b = true :=
      h.sublist (List.Sublist.cons_cons f (List.sublist_cons_self s rest))
    have hs : ∀ x ∈ rest, s.le x = true := fun x hx => List.rel_of_pairwise_cons hsrest hx
    rw [sweep_some_cons rest hf hfs]
    by_cases hover : f.overlaps s = true
    · simp [hover, Apart]
    · rw [if_neg hover]
      rw [Bool.not_eq_true] at hover
      by_cases he : s.isEmpty = true
      · -- `f` is still what is remembered, and `s` overlaps nothing that comes after it
        have hsx : ∀ x ∈ rest, s.overlaps x = false :=
          fun x hx => overlaps_eq_false_of_isEmpty he (hs x hx)
        rw [if_pos he, ih hf hfrest]
        simp only [Apart, List.pairwise_cons, List.forall_mem_cons]
        exact ⟨fun ⟨h1, h2⟩ => ⟨⟨hover, h1⟩, hsx, h2⟩, fun ⟨⟨_, h1⟩, _, h2⟩ => ⟨h1, h2⟩⟩
      · -- `f` ends before `s` starts, and so before all that comes after `s`
        have hfx : ∀ x ∈ rest, f.overlaps x = false := by
          intro x hx
          have hx := (le_iff s x).mp (hs x hx)
          have hsle := s.start_le_stop
          rw [isEmpty_iff] at he
          rw [le_iff] at hfs
          rw [overlaps_eq_false_iff] at hover ⊢
          omega
        rw [if_neg he, ih (by simpa using he) hsrest]
        simp only [Apart, List.pairwise_cons, List.forall_mem_cons]
        exact ⟨fun ⟨h1, h2⟩ => ⟨⟨hover, hfx⟩, h1, h2⟩, fun ⟨_, h1, h2⟩ => ⟨h1, h2⟩⟩

lemma sweep_none_eq_none_iff {spans : List Span}
    (h : spans.Pairwise fun a b => a.le b = true) : sweep none spans = none ↔ Apart spans := by
  induction spans with
  | nil => simp [sweep, Apart]
  | cons s rest ih =>
    by_cases he : s.isEmpty = true
    · have hapart : ∀ x ∈ rest, s.overlaps x = false :=
        fun x hx => overlaps_eq_false_of_isEmpty he (List.rel_of_pairwise_cons h hx)
      have hstep : sweep none (s :: rest) = sweep none rest := by simp [sweep, he]
      rw [hstep, ih h.of_cons]
      exact ⟨fun h' => List.Pairwise.cons hapart h', fun h' => h'.of_cons⟩
    · have he : s.isEmpty = false := by simpa using he
      have hstep : sweep none (s :: rest) = sweep (some s) rest := by simp [sweep, he]
      rw [hstep, sweep_some_eq_none_iff he h]

/-- The sweep finds nothing exactly if no two of the spans overlap. -/
theorem findOverlap_eq_none_iff (spans : List Span) : findOverlap spans = none ↔ Apart spans := by
  rw [findOverlap, sweep_none_eq_none_iff (pairwise_sorted spans)]
  exact ⟨fun h => h.perm (sorted_perm spans), fun h => h.perm (sorted_perm spans).symm⟩

/-! ### Chains -/

/-- Each span ends before the later ones start. -/
def Chained (spans : List Span) : Prop := spans.Pairwise fun a b => a.stop ≤ b.start

lemma Chained.apart {spans : List Span} (h : Chained spans) : Apart spans :=
  h.imp fun hab => by
    rw [overlaps_eq_false_iff]
    exact Or.inl hab

lemma Apart.chained_sorted {spans : List Span} (h : Apart spans) : Chained (sorted spans) := by
  have hapart := h.perm (sorted_perm spans).symm
  refine (hapart.and (pairwise_sorted spans)).imp fun {a b} hab => ?_
  have ha := a.start_le_stop
  have hb := b.start_le_stop
  rw [overlaps_eq_false_iff, le_iff] at hab
  omega

lemma Chained.sorted_eq {spans : List Span} (h : Chained spans) : sorted spans = spans := by
  refine List.mergeSort_of_pairwise (h.imp fun {a b} hab => ?_)
  have ha := a.start_le_stop
  have hb := b.start_le_stop
  rw [le_iff]
  omega

/-- In a chain only empty spans can occur twice: such a span ends before it starts again. -/
lemma Chained.isEmpty_of_duplicate {spans : List Span} (h : Chained spans) {s : Span}
    (hs : List.Duplicate s spans) : s.isEmpty = true := by
  have htwice : Chained [s, s] := List.Pairwise.sublist (List.duplicate_iff_sublist.mp hs) h
  have hstop : s.stop ≤ s.start := List.rel_of_pairwise_cons htwice (by simp)
  have hstart := s.start_le_stop
  rw [isEmpty_iff]
  omega

lemma Chained.nodup_iff {spans : List Span} (h : Chained spans) :
    spans.Nodup ↔ (spans.filter isEmpty).Nodup := by
  constructor
  · exact fun hn => hn.filter _
  · intro hn
    rw [List.nodup_iff_forall_not_duplicate] at hn ⊢
    intro s hs
    have htwice := (List.duplicate_iff_sublist.mp hs).filter isEmpty
    rw [List.filter_cons_of_pos (h.isEmpty_of_duplicate hs),
      List.filter_cons_of_pos (h.isEmpty_of_duplicate hs), List.filter_nil] at htwice
    exact hn s (List.duplicate_iff_sublist.mpr htwice)

end TaggedCorpus.Span
