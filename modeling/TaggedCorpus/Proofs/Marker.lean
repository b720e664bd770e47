import Mathlib.Data.List.Basic
import TaggedCorpus.Marker
import TaggedCorpus.Proofs.Text.Words

/-!
The roles of words and the markers that have them.

A word opens an entity exactly if it is written as an opening marker, with a label that can be
one, and it closes an entity exactly if it is the closing marker.
-/

namespace TaggedCorpus

namespace Marker

lemma labelOf?_eq_some_iff (word label : Text) :
    labelOf? word = some label ↔ word = opening (some label) ∧ isLabel label = true := by
  unfold labelOf?
  constructor
  · intro h
    split at h
    · simp at h
    · rename_i rest hrest
      rw [List.isPrefixOf?_eq_some_iff_append_eq] at hrest
      split at h
      · rename_i hc
        simp only [Bool.and_eq_true, decide_eq_true_eq, Option.some.injEq] at hc h
        obtain ⟨ys, hys⟩ := List.getLast?_eq_some_iff.mp hc.1
        subst hys
        simp only [List.dropLast_concat] at h hc
        subst h
        exact ⟨by rw [← hrest]; simp [opening], hc.2⟩
      · simp at h
  · rintro ⟨rfl, hl⟩
    have hp : (openingStem ++ [':']).isPrefixOf? (opening (some label)) =
        some (label ++ ['>']) := by
      rw [List.isPrefixOf?_eq_some_iff_append_eq]
      simp [opening]
    rw [hp]
    simp [hl]

lemma resembles_opening (label : Option Text) : resembles (opening label) = true := by
  cases label with
  | none => decide
  | some label =>
    have hp : openingStem.isPrefixOf? (opening (some label)) = some (':' :: label ++ ['>']) := by
      rw [List.isPrefixOf?_eq_some_iff_append_eq]
      simp [opening]
    simp [resembles, hp, isMarkerTail]

/-! ### Markers as words -/

lemma isWord_closing : Text.IsWord closing := by decide

lemma isWord_opening_iff (label : Option Text) :
    Text.IsWord (opening label) ↔ ∀ l ∈ label, ∀ c ∈ l, Text.isBlank c = false := by
  cases label with
  | none =>
    have : Text.IsWord (opening none) := by decide
    simp [this]
  | some label =>
    have hstem : Text.IsWord openingStem := by decide
    have hcolon : Text.isBlank ':' = false := by decide
    have hangle : Text.isBlank '>' = false := by decide
    simp only [Text.IsWord, opening, List.forall_mem_append, List.forall_mem_cons,
      Option.mem_some_iff, forall_eq']
    constructor
    · rintro ⟨-, ⟨-, -, h⟩, -⟩
      exact h
    · intro h
      exact ⟨by simp, ⟨hstem.2, hcolon, h⟩, hangle, by simp⟩

lemma isBlank_eq_of_isLabel {label : Text} (h : isLabel label = true) :
    ∀ c ∈ label, Text.isBlank c = Text.isInformationSeparator c := by
  intro c hc
  simp only [isLabel, Bool.and_eq_true, List.all_eq_true] at h
  have hw := h.2 c hc
  simp only [isLabelChar, Bool.and_eq_true, Bool.not_eq_true'] at hw
  simp [Text.isBlank, hw.2]

end Marker

/-! ### Roles -/

namespace Role

lemma ofWord_closing : ofWord Marker.closing = .ok .closing := by decide

lemma ofWord_opening {label : Option Text} (h : ∀ l ∈ label, isLabel l = true) :
    ofWord (Marker.opening label) = .ok (.opening label) := by
  have hr := Marker.resembles_opening label
  cases label with
  | none => decide
  | some label =>
    have hl := (Marker.labelOf?_eq_some_iff (Marker.opening (some label)) label).mpr
      ⟨rfl, h label rfl⟩
    have hc : Marker.opening (some label) ≠ Marker.closing := by
      simp [Marker.opening, Marker.openingStem, Marker.closing, Marker.closingStem]
    have hn : Marker.opening (some label) ≠ Marker.opening none := by
      simp [Marker.opening, Marker.openingStem]
    simp [ofWord, hr, hl, hc, hn]

lemma ofWord_cases (word : Text) :
    ofWord word = .ok .plain ∨
    (word = Marker.closing ∧ ofWord word = .ok .closing) ∨
    (∃ label : Option Text, word = Marker.opening label ∧ (∀ l ∈ label, isLabel l = true) ∧
      ofWord word = .ok (.opening label)) ∨
    ofWord word = .error ⟨word⟩ := by
  by_cases hc : word = Marker.closing
  · exact Or.inr (Or.inl ⟨hc, hc ▸ ofWord_closing⟩)
  · by_cases hn : word = Marker.opening none
    · exact Or.inr (Or.inr (Or.inl ⟨none, hn, by simp, hn ▸ ofWord_opening (by simp)⟩))
    · cases hl : Marker.labelOf? word with
      | some label =>
        obtain ⟨rfl, hlabel⟩ := (Marker.labelOf?_eq_some_iff word label).mp hl
        have hlabels : ∀ l ∈ some label, isLabel l = true := by simpa using hlabel
        exact Or.inr (Or.inr (Or.inl ⟨some label, rfl, hlabels, ofWord_opening hlabels⟩))
      | none =>
        by_cases hr : Marker.resembles word = true
        · exact Or.inr (Or.inr (Or.inr (by simp [ofWord, hr, hc, hn, hl])))
        · exact Or.inl (by simp [ofWord, hr])

lemma ofWord_eq_closing_iff (word : Text) :
    ofWord word = .ok .closing ↔ word = Marker.closing := by
  constructor
  · intro h
    rcases ofWord_cases word with h' | ⟨hw, -⟩ | ⟨label, -, -, h'⟩ | h'
    · simp [h'] at h
    · exact hw
    · simp [h'] at h
    · simp [h'] at h
  · rintro rfl
    exact ofWord_closing

lemma ofWord_eq_opening_iff (word : Text) (label : Option Text) :
    ofWord word = .ok (.opening label) ↔
      word = Marker.opening label ∧ ∀ l ∈ label, isLabel l = true := by
  constructor
  · intro h
    rcases ofWord_cases word with h' | ⟨-, h'⟩ | ⟨label', hw, hl, h'⟩ | h'
    · simp [h'] at h
    · simp [h'] at h
    · obtain rfl : label' = label := by simpa [h'] using h
      exact ⟨hw, hl⟩
    · simp [h'] at h
  · rintro ⟨rfl, h⟩
    exact ofWord_opening h

end Role

end TaggedCorpus
