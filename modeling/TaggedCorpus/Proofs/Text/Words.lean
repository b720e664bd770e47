import Mathlib.Tactic.Common
import TaggedCorpus.Text.Basic

/-!
Words and the lines they are put into.

Everything follows from one equation: a blank parts the words before it from the words after
it. Words joined by spaces are therefore read back as they were, as long as each of them can
be a word at all.
-/

namespace TaggedCorpus.Text

/-- A text that can be a word of a line: it is not empty and has no blank in it. -/
def IsWord (w : Text) : Prop := w ≠ [] ∧ ∀ c ∈ w, isBlank c = false

instance (w : Text) : Decidable (IsWord w) :=
  decidable_of_iff (w ≠ [] ∧ w.all (fun c => !isBlank c) = true) (by simp [IsWord])

lemma eq_false_of_mem_piece {p : Char → Bool} {t : Text} :
    ∀ w ∈ t.splitOnP p, ∀ c ∈ w, p c = false := by
  induction t with
  | nil => simp
  | cons a t ih =>
    intro w hw c hc
    rw [List.splitOnP_cons_eq_if_modifyHead] at hw
    obtain ⟨u, us, hu⟩ := List.exists_cons_of_ne_nil (List.splitOnP_ne_nil p t)
    rw [hu] at hw ih
    split at hw
    · rcases List.mem_cons.mp hw with rfl | hw
      · simp at hc
      · exact ih w hw c hc
    · rename_i ha
      rcases List.mem_cons.mp hw with rfl | hw
      · rcases List.mem_cons.mp hc with rfl | hc
        · simpa using ha
        · exact ih u (by simp) c hc
      · exact ih w (by simp [hw]) c hc

lemma isWord_of_mem_words {w t : Text} (h : w ∈ t.words) : IsWord w := by
  obtain ⟨hw, hne⟩ := List.mem_filter.mp h
  exact ⟨by simpa using hne, eq_false_of_mem_piece w hw⟩

lemma words_cons_blank {c : Char} (hc : isBlank c = true) (t : Text) :
    words (c :: t) = words t := by
  simpa using words_append_cons [] hc t

lemma words_of_isWord {w : Text} (h : IsWord w) : words w = [w] := by
  rw [words, List.splitOnP_eq_singleton h.2]
  simp [h.1]

lemma words_eq_nil_iff (t : Text) : words t = [] ↔ isBlankLine t = true := by
  induction t with
  | nil => simp [isBlankLine]
  | cons c t ih =>
    by_cases hc : isBlank c = true
    · rw [words_cons_blank hc, ih]
      simp [isBlankLine, hc]
    · obtain ⟨u, us, hu⟩ := List.exists_cons_of_ne_nil (List.splitOnP_ne_nil isBlank t)
      have : words (c :: t) ≠ [] := by
        rw [words, List.splitOnP_cons_eq_if_modifyHead, if_neg hc, hu]
        simp
      simp [this, isBlankLine, hc]

/-! ### Joined words -/

@[simp] lemma unwords_nil : unwords [] = [] := rfl

@[simp] lemma unwords_singleton (w : Text) : unwords [w] = w := by simp [unwords]

lemma unwords_cons_cons (w v : Text) (ws : List Text) :
    unwords (w :: v :: ws) = w ++ ' ' :: unwords (v :: ws) := by
  simp [unwords, List.intercalate_cons_cons]

lemma words_unwords_eq_flatMap (ws : List Text) : words (unwords ws) = ws.flatMap words := by
  induction ws with
  | nil => simp
  | cons w ws ih =>
    rcases ws with _ | ⟨v, vs⟩
    · simp
    · rw [unwords_cons_cons, words_append_cons w (by decide), ih]
      simp only [List.flatMap_cons]

lemma words_unwords {ws : List Text} (h : ∀ w ∈ ws, IsWord w) : words (unwords ws) = ws := by
  rw [words_unwords_eq_flatMap]
  induction ws with
  | nil => rfl
  | cons w ws ih =>
    rw [List.flatMap_cons, words_of_isWord (h w (by simp)), ih fun v hv => h v (by simp [hv])]
    rfl

lemma mem_unwords {c : Char} {ws : List Text} (h : c ∈ unwords ws) :
    c = ' ' ∨ ∃ w ∈ ws, c ∈ w := by
  induction ws with
  | nil => simp at h
  | cons w ws ih =>
    rcases ws with _ | ⟨v, vs⟩
    · exact Or.inr ⟨w, by simp, by simpa using h⟩
    · rw [unwords_cons_cons, List.mem_append, List.mem_cons] at h
      rcases h with h | h | h
      · exact Or.inr ⟨w, by simp, h⟩
      · exact Or.inl h
      · rcases ih h with h | ⟨u, hu, hcu⟩
        · exact Or.inl h
        · exact Or.inr ⟨u, by simp [hu], hcu⟩

end TaggedCorpus.Text
