import Mathlib.Logic.Function.Defs
import Mathlib.Tactic.Common
import TaggedCorpus.Span.Basic

/-!
Spans by their bounds.

A span is given by its two bounds and its label, and two integers bound a span exactly if they are
the bounds of one. So moving a span is an equation between bounds, and what is asked of a moved
span is arithmetic.
-/

namespace TaggedCorpus.Span

attribute [ext] Span

lemma of?_eq_ok_iff {start stop : Int} {label : Option Text} {s : Span} :
    of? start stop label = .ok s ↔
      (s.start : Int) = start ∧ (s.stop : Int) = stop ∧ s.label = label := by
  have hle := s.start_le_stop
  unfold of?
  constructor
  · intro h
    split at h
    · cases h
    · split at h
      · cases h
      · cases h
        exact ⟨Int.toNat_of_nonneg (by omega), Int.toNat_of_nonneg (by omega), rfl⟩
  · rintro ⟨rfl, rfl, rfl⟩
    rw [if_neg (by omega), dif_neg (by omega)]
    simp

lemma shift_eq_ok_iff {s t : Span} {offset : Int} :
    s.shift offset = .ok t ↔
      (t.start : Int) = s.start - offset ∧ (t.stop : Int) = s.stop - offset ∧ t.label = s.label :=
  of?_eq_ok_iff

lemma exists_shift {s : Span} {offset : Int} (h : offset ≤ s.start) :
    ∃ t, s.shift offset = .ok t := by
  have hle := s.start_le_stop
  exact ⟨⟨(s.start - offset).toNat, (s.stop - offset).toNat, s.label, by omega⟩,
    shift_eq_ok_iff.mpr ⟨Int.toNat_of_nonneg (by omega), Int.toNat_of_nonneg (by omega), rfl⟩⟩

/-- The span moved to the right. -/
def movedRight (n : Nat) (s : Span) : Span where
  start := s.start + n
  stop := s.stop + n
  label := s.label
  start_le_stop := Nat.add_le_add_right s.start_le_stop n

lemma shift_neg (s : Span) (n : Nat) : s.shift (-n) = .ok (s.movedRight n) := by
  refine shift_eq_ok_iff.mpr ⟨?_, ?_, rfl⟩
  · simp only [movedRight]
    omega
  · simp only [movedRight]
    omega

lemma movedRight_injective (n : Nat) : Function.Injective (movedRight n) := by
  intro a b h
  simp only [movedRight, Span.mk.injEq] at h
  ext
  · omega
  · omega
  · rw [h.2.2]

lemma contains_iff {outer s : Span} :
    outer.contains s = true ↔ outer.start ≤ s.start ∧ s.stop ≤ outer.stop := by
  simp [contains]

end TaggedCorpus.Span
