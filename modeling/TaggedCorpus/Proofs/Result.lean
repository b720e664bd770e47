import Mathlib.Data.List.Perm.Basic

/-!
Results that may be failures.

A chain of steps succeeds exactly if each of its steps does, on what the one before it gave.
-/

lemma List.Forall₂.forall_mem_left {α β : Type} {R : α → β → Prop} {p : α → Prop} {as : List α}
    {bs : List β} (h : List.Forall₂ R as bs) (hp : ∀ a b, R a b → p a) : ∀ a ∈ as, p a :=
  ((List.forall₂_and_left as bs).mp (h.imp fun a b hab => ⟨hp a b hab, hab⟩)).1

namespace Except

variable {ε ε' α β : Type}

lemma bind_eq_ok_iff {x : Except ε α} {f : α → Except ε β} {b : β} :
    x.bind f = .ok b ↔ ∃ a, x = .ok a ∧ f a = .ok b := by
  cases x <;> simp [Except.bind]

lemma map_eq_ok_iff {x : Except ε α} {f : α → β} {b : β} :
    x.map f = .ok b ↔ ∃ a, x = .ok a ∧ f a = b := by
  cases x <;> simp [Except.map]

lemma map_eq_error_iff {x : Except ε α} {f : α → β} {e : ε} :
    x.map f = .error e ↔ x = .error e := by
  cases x <;> simp [Except.map]

lemma mapError_eq_ok_iff {x : Except ε α} {f : ε → ε'} {a : α} :
    x.mapError f = .ok a ↔ x = .ok a := by
  cases x <;> simp [Except.mapError]

lemma mapError_eq_error_iff {x : Except ε α} {f : ε → ε'} {e' : ε'} :
    x.mapError f = .error e' ↔ ∃ e, x = .error e ∧ f e = e' := by
  cases x <;> simp [Except.mapError]

lemma mapM_cons (f : α → Except ε β) (a : α) (as : List α) :
    (a :: as).mapM f = (f a).bind fun b => (as.mapM f).map (b :: ·) := by
  rw [List.mapM_cons]
  cases f a with
  | error e => rfl
  | ok b => cases as.mapM f <;> rfl

lemma mapM_eq_ok_iff {f : α → Except ε β} {as : List α} {bs : List β} :
    as.mapM f = .ok bs ↔ List.Forall₂ (fun a b => f a = .ok b) as bs := by
  induction as generalizing bs with
  | nil =>
    rw [List.mapM_nil, List.forall₂_nil_left_iff]
    simp [pure, Except.pure, eq_comm]
  | cons a as ih =>
    simp only [mapM_cons, bind_eq_ok_iff, map_eq_ok_iff, ih, List.forall₂_cons_left_iff]
    constructor
    · rintro ⟨b, hb, rest, hrest, rfl⟩
      exact ⟨b, rest, hb, hrest, rfl⟩
    · rintro ⟨b, rest, hb, hrest, rfl⟩
      exact ⟨b, hb, rest, hrest, rfl⟩

lemma mapM_eq_ok_map {f : α → Except ε β} {g : α → β} {as : List α}
    (h : ∀ a ∈ as, f a = .ok (g a)) : as.mapM f = .ok (as.map g) := by
  rw [mapM_eq_ok_iff, List.forall₂_map_right_iff, List.forall₂_same]
  exact h

lemma mapM_perm {f : α → Except ε β} {as as' : List α} {bs : List β} (hp : as'.Perm as)
    (h : as.mapM f = .ok bs) : ∃ bs', as'.mapM f = .ok bs' ∧ bs'.Perm bs := by
  obtain ⟨bs', hbs', hperm⟩ := List.perm_comp_forall₂ hp (mapM_eq_ok_iff.mp h)
  exact ⟨bs', mapM_eq_ok_iff.mpr hbs', hperm⟩

lemma mapM_eq_error_iff {f : α → Except ε β} {as : List α} {e : ε} :
    as.mapM f = .error e ↔ ∃ before a after, as = before ++ a :: after ∧
      (∃ bs, before.mapM f = .ok bs) ∧ f a = .error e := by
  induction as with
  | nil =>
    rw [List.mapM_nil]
    simp [pure, Except.pure]
  | cons a as ih =>
    rw [mapM_cons]
    constructor
    · intro h
      cases ha : f a with
      | error e' =>
        rw [ha] at h
        cases h
        exact ⟨[], a, as, rfl, ⟨[], rfl⟩, ha⟩
      | ok b =>
        rw [ha] at h
        obtain ⟨before, a', after, rfl, ⟨bs, hbs⟩, ha'⟩ := ih.mp (map_eq_error_iff.mp h)
        refine ⟨a :: before, a', after, rfl, ⟨b :: bs, ?_⟩, ha'⟩
        rw [mapM_cons, ha, hbs]
        rfl
    · rintro ⟨before, a', after, heq, ⟨bs, hbs⟩, ha'⟩
      cases before with
      | nil =>
        cases heq
        rw [ha']
        rfl
      | cons b before =>
        cases heq
        rw [mapM_cons, bind_eq_ok_iff] at hbs
        obtain ⟨b', hb', hrest⟩ := hbs
        obtain ⟨bs', hbs', -⟩ := map_eq_ok_iff.mp hrest
        rw [hb']
        exact map_eq_error_iff.mpr (ih.mpr ⟨before, a', after, rfl, ⟨bs', hbs'⟩, ha'⟩)

lemma exists_of_mapM_eq_error {f : α → Except ε β} {as : List α} {e : ε}
    (h : as.mapM f = .error e) : ∃ a ∈ as, f a = .error e := by
  obtain ⟨before, a, after, rfl, -, ha⟩ := mapM_eq_error_iff.mp h
  exact ⟨a, by simp, ha⟩

/-- What a step that fails is reported as. -/
def report? {μ : Type} (message : ε → μ) : Except ε α → Option μ
  | .ok _ => none
  | .error e => some (message e)

lemma head?_filterMap_report? {μ : Type} (message : ε → μ) (f : α → Except ε β) (as : List α) :
    (as.filterMap fun a => report? message (f a)).head? = report? message (as.mapM f) := by
  induction as with
  | nil => rfl
  | cons a as ih =>
    rw [mapM_cons]
    cases ha : f a with
    | error e => simp [ha, report?, Except.bind]
    | ok b =>
      rw [List.filterMap_cons_none (by rw [ha, report?]), ih]
      cases as.mapM f <;> rfl

end Except
