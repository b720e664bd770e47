import Mathlib.Order.BooleanAlgebra.Set
import TaggedCorpus.Proofs.Span.Bounds
import TaggedCorpus.Proofs.Span.Overlap

/-!
The relations between spans, as relations between sets of positions.

A span covers a set of positions, and an empty span covers none but still has a place. Between
spans that are not empty the relations are those of the sets: the later of their starts is the
position to look for in both, and the first and the last position tell whether all are covered. What
an empty span overlaps, and what contains it, depends on its place, which the set does not tell. But
it crosses none, as it lies within each span that it overlaps. So crossing can be told from the sets
in every case.
-/

namespace TaggedCorpus.Span

variable {a b s : Span}

/-- The positions that a span covers. -/
def positions (s : Span) : Set Int := {i | s.covers i = true}

/-! ### Sets of positions -/

lemma mem_positions_iff {i : Int} : i ∈ s.positions ↔ s.start ≤ i ∧ i < s.stop := by
  simp [positions, covers]

lemma isEmpty_eq_false_of_mem_positions {i : Int} (h : i ∈ s.positions) : s.isEmpty = false := by
  rw [mem_positions_iff] at h
  rw [← Bool.not_eq_true, isEmpty_iff]
  omega

lemma inter_positions_nonempty_iff :
    (a.positions ∩ b.positions).Nonempty ↔
      (a.isEmpty = false ∧ b.isEmpty = false) ∧ a.overlaps b = true := by
  constructor
  · rintro ⟨i, hia, hib⟩
    refine ⟨⟨isEmpty_eq_false_of_mem_positions hia, isEmpty_eq_false_of_mem_positions hib⟩, ?_⟩
    rw [mem_positions_iff] at hia hib
    rw [overlaps_iff]
    omega
  · rintro ⟨⟨ha, hb⟩, hover⟩
    have halt := start_lt_stop ha
    have hblt := start_lt_stop hb
    rw [overlaps_iff] at hover
    -- the later of the two starts lies before either stop
    refine ⟨(max a.start b.start : Nat), ?_, ?_⟩
    · rw [mem_positions_iff]
      omega
    · rw [mem_positions_iff]
      omega

lemma contains_iff_subset (hb : b.isEmpty = false) :
    a.contains b = true ↔ b.positions ⊆ a.positions := by
  have hlt := start_lt_stop hb
  rw [contains_iff]
  constructor
  · intro h i hi
    rw [mem_positions_iff] at hi ⊢
    omega
  · intro h
    have hfirst : (b.start : Int) ∈ b.positions := mem_positions_iff.mpr (by omega)
    have hlast : (b.stop : Int) - 1 ∈ b.positions := mem_positions_iff.mpr (by omega)
    have hfirst' := mem_positions_iff.mp (h hfirst)
    have hlast' := mem_positions_iff.mp (h hlast)
    omega

/-! ### The four relations -/

lemma startsIn_iff : a.startsIn b = true ↔ b.start ≤ a.start ∧ a.start < b.stop := by
  simp [startsIn]

lemma startsIn_or_startsIn_iff (hab : ¬ a.contains b = true) (hba : ¬ b.contains a = true) :
    b.startsIn a = true ∨ a.startsIn b = true ↔ a.overlaps b = true := by
  rw [contains_iff] at hab hba
  rw [startsIn_iff, startsIn_iff, overlaps_iff]
  omega

lemma intersects_iff :
    a.intersects b = true ↔
      a.overlaps b = true ∨ a.contains b = true ∨ b.contains a = true := by
  by_cases hab : a.contains b = true
  · simp [intersects, hab]
  · by_cases hba : b.contains a = true
    · simp [intersects, hba]
    · simp [intersects, hab, hba, startsIn_or_startsIn_iff hab hba]

lemma crosses_iff_intersects :
    a.crosses b = true ↔
      a.intersects b = true ∧ ¬ a.contains b = true ∧ ¬ b.contains a = true := by
  by_cases hab : a.contains b = true
  · simp [crosses, hab]
  · by_cases hba : b.contains a = true
    · simp [crosses, hba]
    · simp [crosses, intersects, hab, hba]

lemma crosses_iff :
    a.crosses b = true ↔
      a.overlaps b = true ∧ ¬ a.contains b = true ∧ ¬ b.contains a = true := by
  rw [crosses_iff_intersects]
  refine and_congr_left fun hnot => ?_
  rw [intersects_iff, or_iff_left (not_or.mpr hnot)]

lemma intersects_comm (a b : Span) : a.intersects b = b.intersects a := by
  rw [Bool.eq_iff_iff, intersects_iff, intersects_iff, overlaps_comm]
  exact or_congr_right or_comm

lemma crosses_comm (a b : Span) : a.crosses b = b.crosses a := by
  rw [Bool.eq_iff_iff, crosses_iff_intersects, crosses_iff_intersects, intersects_comm]
  exact and_congr_right' and_comm

/-! ### Empty spans, and spans that are not empty -/

lemma contains_of_overlaps (hb : b.isEmpty = true) (h : a.overlaps b = true) :
    a.contains b = true := by
  rw [overlaps_iff_of_isEmpty a hb] at h
  rw [isEmpty_iff] at hb
  rw [contains_iff]
  omega

lemma overlaps_of_contains (hb : b.isEmpty = false) (h : a.contains b = true) :
    a.overlaps b = true := by
  have hlt := start_lt_stop hb
  rw [contains_iff] at h
  rw [overlaps_iff]
  omega

lemma intersects_iff_overlaps (ha : a.isEmpty = false) (hb : b.isEmpty = false) :
    a.intersects b = true ↔ a.overlaps b = true := by
  rw [intersects_iff]
  constructor
  · rintro (h | h | h)
    · exact h
    · exact overlaps_of_contains hb h
    · rw [overlaps_comm]
      exact overlaps_of_contains ha h
  · exact Or.inl

lemma isEmpty_eq_false_of_crosses (h : a.crosses b = true) :
    a.isEmpty = false ∧ b.isEmpty = false := by
  obtain ⟨hover, hab, hba⟩ := crosses_iff.mp h
  constructor
  · by_contra ha
    rw [overlaps_comm] at hover
    exact hba (contains_of_overlaps (by simpa using ha) hover)
  · by_contra hb
    exact hab (contains_of_overlaps (by simpa using hb) hover)

lemma crosses_iff_positions :
    a.crosses b = true ↔ (a.positions ∩ b.positions).Nonempty ∧
      (a.positions \ b.positions).Nonempty ∧ (b.positions \ a.positions).Nonempty := by
  rw [Set.sdiff_nonempty, Set.sdiff_nonempty, inter_positions_nonempty_iff]
  constructor
  · intro h
    obtain ⟨ha, hb⟩ := isEmpty_eq_false_of_crosses h
    obtain ⟨hover, hab, hba⟩ := crosses_iff.mp h
    rw [contains_iff_subset hb] at hab
    rw [contains_iff_subset ha] at hba
    exact ⟨⟨⟨ha, hb⟩, hover⟩, hba, hab⟩
  · rintro ⟨⟨⟨ha, hb⟩, hover⟩, hba, hab⟩
    rw [← contains_iff_subset hb] at hab
    rw [← contains_iff_subset ha] at hba
    exact crosses_iff.mpr ⟨hover, hab, hba⟩

/-- **Relations between spans and the positions they cover.** Two spans cross exactly if they share
a position and each covers one that the other does not, and they intersect exactly if they overlap
or one contains the other; none of the three relations depends on the order of the two spans. If
neither span is empty, to overlap, to intersect and to share a position are the same, and a span
contains another exactly if it covers all its positions. A span overlaps an empty one exactly if
that one lies strictly inside of it. -/
theorem relations_agree_with_positions (a b : Span) :
    (a.crosses b = true ↔ (a.positions ∩ b.positions).Nonempty ∧
      (a.positions \ b.positions).Nonempty ∧ (b.positions \ a.positions).Nonempty) ∧
    (a.intersects b = true ↔
      a.overlaps b = true ∨ a.contains b = true ∨ b.contains a = true) ∧
    (a.intersects b = b.intersects a ∧ a.overlaps b = b.overlaps a ∧
      a.crosses b = b.crosses a) ∧
    (a.isEmpty = false → b.isEmpty = false →
      (a.overlaps b = true ↔ a.intersects b = true) ∧
      (a.intersects b = true ↔ (a.positions ∩ b.positions).Nonempty) ∧
      (a.contains b = true ↔ b.positions ⊆ a.positions)) ∧
    (b.isEmpty = true →
      (a.overlaps b = true ↔ a.start < b.start ∧ b.start < a.stop)) := by
  refine ⟨crosses_iff_positions, intersects_iff,
    ⟨intersects_comm a b, overlaps_comm a b, crosses_comm a b⟩, fun ha hb => ⟨?_, ?_, ?_⟩,
    overlaps_iff_of_isEmpty a⟩
  · exact (intersects_iff_overlaps ha hb).symm
  · rw [intersects_iff_overlaps ha hb, inter_positions_nonempty_iff, and_iff_right ⟨ha, hb⟩]
  · exact contains_iff_subset hb

/-- Two spans that share one position, and the empty span where the first of them stops. -/
def twoToSix : Span := { start := 2, stop := 7 }
def sixToEight : Span := { start := 6, stop := 9 }
def atSeven : Span := { start := 7, stop := 7 }

theorem relations_agree_with_positions_sharedPosition :
    twoToSix.isEmpty = false ∧ sixToEight.isEmpty = false ∧ atSeven.isEmpty = true ∧
    (twoToSix.positions ∩ sixToEight.positions).Nonempty ∧
    ¬ sixToEight.positions ⊆ twoToSix.positions ∧
    twoToSix.intersects atSeven = true ∧ ¬ twoToSix.overlaps atSeven = true := by
  obtain ⟨-, -, -, hcovering, -⟩ := relations_agree_with_positions twoToSix sixToEight
  obtain ⟨-, hintersects, -, -, hempty⟩ := relations_agree_with_positions twoToSix atSeven
  obtain ⟨-, hshared, hsubset⟩ := hcovering rfl rfl
  refine ⟨rfl, rfl, rfl, hshared.mp rfl, fun h => ?_, hintersects.mpr (.inr (.inl rfl)),
    fun h => ?_⟩
  · have hcontains := hsubset.mpr h
    cases hcontains
  · have hinside := (hempty rfl).mp h
    exact Nat.lt_irrefl 7 hinside.2

end TaggedCorpus.Span
