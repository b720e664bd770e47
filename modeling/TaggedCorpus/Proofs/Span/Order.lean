import Mathlib.Data.List.Basic
import TaggedCorpus.Span.Overlap

/-!
Stable sorting, and the order of spans.

A stable sort keeps the elements of one class of equivalent ones in their order, and a sorted
list is determined by its classes. So two lists sort to the same list as soon as each class
stands in the same order in both, however the classes are mixed.
-/

namespace TaggedCorpus

section StableSort

variable {α : Type} {le : α → α → Bool}

/-- The elements that are neither before nor after `a`. -/
def classOf (le : α → α → Bool) (a : α) (l : List α) : List α := l.filter fun b => le a b && le b a

lemma filter_mergeSort (trans : ∀ a b c, le a b = true → le b c = true → le a c = true)
    (total : ∀ a b, (le a b || le b a) = true) {p : α → Bool} {l : List α}
    (h : (l.filter p).Pairwise fun a b => le a b = true) :
    (l.mergeSort le).filter p = l.filter p := by
  -- a stable sort keeps each sublist that is in order, and this one loses no element
  have hsub : (l.filter p).Sublist ((l.mergeSort le).filter p) := by
    have := (List.sublist_mergeSort trans total h List.filter_sublist).filter p
    simpa using this
  have hlen : ((l.mergeSort le).filter p).length = (l.filter p).length :=
    ((List.mergeSort_perm l le).filter p).length_eq
  exact (hsub.eq_of_length hlen.symm).symm

/-- A sorted list is determined by its classes. -/
lemma eq_of_classOf_eq (refl : ∀ a, le a a = true) {l₁ l₂ : List α}
    (h₁ : l₁.Pairwise fun a b => le a b = true) (h₂ : l₂.Pairwise fun a b => le a b = true)
    (h : ∀ a, classOf le a l₁ = classOf le a l₂) : l₁ = l₂ := by
  induction l₁ generalizing l₂ with
  | nil =>
    rcases l₂ with _ | ⟨b, t₂⟩
    · rfl
    · have := h b
      simp [classOf, refl] at this
  | cons a t₁ ih =>
    rcases l₂ with _ | ⟨b, t₂⟩
    · have := h a
      simp [classOf, refl] at this
    · -- each head lies in the other list, so the two heads are equivalent
      have ha : a ∈ classOf le a (b :: t₂) := by
        rw [← h a]
        simp [classOf, refl]
      have hb : b ∈ classOf le b (a :: t₁) := by
        rw [h b]
        simp [classOf, refl]
      have hba : le b a = true := by
        rcases List.mem_cons.mp (List.mem_filter.mp ha).1 with rfl | hm
        · exact refl a
        · exact List.rel_of_pairwise_cons h₂ hm
      have hab : le a b = true := by
        rcases List.mem_cons.mp (List.mem_filter.mp hb).1 with rfl | hm
        · exact refl b
        · exact List.rel_of_pairwise_cons h₁ hm
      have hhead : a = b := by
        have := h a
        simp only [classOf, List.filter_cons, refl, hab, hba, Bool.and_self, if_true] at this
        exact (List.cons.inj this).1
      subst hhead
      rw [ih h₁.of_cons h₂.of_cons fun c => ?_]
      have := h c
      simp only [classOf, List.filter_cons] at this ⊢
      split at this
      · exact (List.cons.inj this).2
      · exact this

lemma pairwise_classOf (trans : ∀ a b c, le a b = true → le b c = true → le a c = true) (a : α)
    (l : List α) : (classOf le a l).Pairwise fun b c => le b c = true := by
  refine List.pairwise_of_forall_mem_list fun b hb c hc => ?_
  have hba := (List.mem_filter.mp hb).2
  have hac := (List.mem_filter.mp hc).2
  simp only [Bool.and_eq_true] at hba hac
  exact trans b a c hba.2 hac.1

lemma mergeSort_eq_of_classOf_eq
    (trans : ∀ a b c, le a b = true → le b c = true → le a c = true)
    (total : ∀ a b, (le a b || le b a) = true) {l₁ l₂ : List α}
    (h : ∀ a, classOf le a l₁ = classOf le a l₂) : l₁.mergeSort le = l₂.mergeSort le := by
  have hclass : ∀ (a : α) (l : List α), classOf le a (l.mergeSort le) = classOf le a l :=
    fun a l => filter_mergeSort trans total (pairwise_classOf trans a l)
  refine eq_of_classOf_eq (fun a => by simpa using total a a) ?_ ?_ fun a => ?_
  · exact List.pairwise_mergeSort trans total l₁
  · exact List.pairwise_mergeSort trans total l₂
  · rw [hclass, hclass, h]

lemma mergeSort_cons_of_forall_le
    (trans : ∀ a b c, le a b = true → le b c = true → le a c = true)
    (total : ∀ a b, (le a b || le b a) = true) {a : α} {l : List α}
    (h : ∀ b ∈ l, le a b = true) : (a :: l).mergeSort le = a :: l.mergeSort le := by
  obtain ⟨before, after, hcons, hl, hbefore⟩ := List.mergeSort_cons trans total a l
  rcases before with _ | ⟨b, before⟩
  · rw [hcons, hl]
    simp
  · -- what is sorted in front of `a` would have to come strictly before it
    have hmem : b ∈ l.mergeSort le := by
      rw [hl]
      simp
    have hb := List.mem_mergeSort.mp hmem
    have := hbefore b (by simp)
    simp [h b hb] at this

end StableSort

namespace Span

/-! ### Spans in ascending order -/

lemma le_iff (a b : Span) :
    a.le b = true ↔ a.start < b.start ∨ (a.start = b.start ∧ a.stop ≤ b.stop) := by
  simp [le]

lemma le_trans (a b c : Span) (hab : a.le b = true) (hbc : b.le c = true) : a.le c = true := by
  rw [le_iff] at *
  omega

lemma le_total (a b : Span) : (a.le b || b.le a) = true := by
  rw [Bool.or_eq_true, le_iff, le_iff]
  omega

lemma sorted_perm (spans : List Span) : (sorted spans).Perm spans := List.mergeSort_perm spans le

@[simp] lemma mem_sorted {s : Span} {spans : List Span} : s ∈ sorted spans ↔ s ∈ spans :=
  (sorted_perm spans).mem_iff

lemma pairwise_sorted (spans : List Span) : (sorted spans).Pairwise fun a b => a.le b = true :=
  List.pairwise_mergeSort le_trans le_total spans

lemma filter_sorted (spans : List Span) {p : Span → Bool}
    (hp : ∀ a b, p a = true → p b = true → a.start = b.start ∧ a.stop = b.stop) :
    (sorted spans).filter p = spans.filter p := by
  refine filter_mergeSort le_trans le_total (List.pairwise_of_forall_mem_list fun a ha b hb => ?_)
  have := hp a b (List.mem_filter.mp ha).2 (List.mem_filter.mp hb).2
  rw [le_iff]
  omega

/-! ### Spans by their stop -/

lemma stop_le_trans (a b c : Span) (hab : decide (a.stop ≤ b.stop) = true)
    (hbc : decide (b.stop ≤ c.stop) = true) : decide (a.stop ≤ c.stop) = true := by
  simp only [decide_eq_true_eq] at *
  omega

lemma stop_le_total (a b : Span) :
    (decide (a.stop ≤ b.stop) || decide (b.stop ≤ a.stop)) = true := by
  simp only [Bool.or_eq_true, decide_eq_true_eq]
  omega

end Span

end TaggedCorpus
