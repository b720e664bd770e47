import Mathlib.Data.List.Perm.Basic
import TaggedCorpus.Proofs.Projection
import TaggedCorpus.Proofs.Span.FirstOverlap

/-!
Which sentences of a document a token is found in.

A token leaves a span in a sentence exactly if it lies within it. Sentences that do not overlap
share no position, so a token that covers a position lies within one of them at most. Sentences
that tile the text leave no position out either, and then the token lies within one of them unless
one sentence ends and another begins inside of it.
-/

namespace TaggedCorpus

/-! ### Tilings -/

namespace Span

/-- The spans stand side by side from `a` up to `b`: each starts where the one before it stops. -/
def Tiles : (a b : Nat) → List Span → Prop
  | a, b, [] => a = b
  | a, b, s :: spans => s.start = a ∧ Tiles s.stop b spans

/-- Where the spans start and stop. -/
def boundaries (spans : List Span) : List Nat := spans.flatMap fun s => [s.start, s.stop]

variable {a b : Nat} {spans : List Span} {token : Span}

lemma Tiles.le_of_mem_boundaries (h : Tiles a b spans) : ∀ c ∈ boundaries spans, a ≤ c := by
  induction spans generalizing a with
  | nil => simp [boundaries]
  | cons s spans ih =>
    obtain ⟨rfl, hrest⟩ := h
    have hle := s.start_le_stop
    intro c hc
    simp only [boundaries, List.flatMap_cons, List.mem_append, List.mem_cons, List.not_mem_nil,
      or_false] at hc
    rcases hc with (rfl | rfl) | hc
    · exact Nat.le_refl _
    · exact hle
    · exact Nat.le_trans hle (ih hrest c hc)

lemma Tiles.le_start (h : Tiles a b spans) {s : Span} (hs : s ∈ spans) : a ≤ s.start :=
  h.le_of_mem_boundaries _ (List.mem_flatMap.mpr ⟨s, hs, by simp⟩)

lemma Tiles.exists_contains_iff (h : Tiles a b spans) (hne : token.isEmpty = false)
    (hstart : a ≤ token.start) (hstop : token.stop ≤ b) :
    (∃ s ∈ spans, s.contains token = true) ↔
      ∀ c ∈ boundaries spans, c ≤ token.start ∨ token.stop ≤ c := by
  have hlt := start_lt_stop hne
  induction spans generalizing a with
  | nil =>
    cases h
    omega
  | cons s spans ih =>
    obtain ⟨rfl, hrest⟩ := h
    have hle := s.start_le_stop
    have hboundaries : (∀ c ∈ boundaries (s :: spans), c ≤ token.start ∨ token.stop ≤ c) ↔
        (s.stop ≤ token.start ∨ token.stop ≤ s.stop) ∧
          ∀ c ∈ boundaries spans, c ≤ token.start ∨ token.stop ≤ c := by
      simp [boundaries, hstart]
    rw [List.exists_mem_cons_iff, hboundaries, contains_iff]
    rcases Nat.lt_or_ge s.stop token.stop with hlong | hshort
    · -- the token reaches past the first span, so it has to start after it
      have hnot : ¬ (s.start ≤ token.start ∧ token.stop ≤ s.stop) := by omega
      rw [or_iff_right hnot, or_iff_left (Nat.not_le.mpr hlong)]
      constructor
      · rintro ⟨x, hx, hcontains⟩
        have hafter : s.stop ≤ token.start :=
          Nat.le_trans (hrest.le_start hx) (contains_iff.mp hcontains).1
        exact ⟨hafter, (ih hrest hafter).mp ⟨x, hx, hcontains⟩⟩
      · rintro ⟨hafter, hnone⟩
        exact (ih hrest hafter).mpr hnone
    · -- the token ends within the first span, and all later boundaries come after it
      refine iff_of_true (.inl ⟨hstart, hshort⟩) ⟨.inr hshort, fun c hc => .inr ?_⟩
      exact Nat.le_trans hshort (hrest.le_of_mem_boundaries c hc)

lemma eq_of_contains_of_apart (h : Apart spans) (hne : token.isEmpty = false) {j j' : Nat}
    {s s' : Span} (hs : spans[j]? = some s) (hs' : spans[j']? = some s')
    (hcontains : s.contains token = true) (hcontains' : s'.contains token = true) : j = j' := by
  obtain ⟨hj, rfl⟩ := List.getElem?_eq_some_iff.mp hs
  obtain ⟨hj', rfl⟩ := List.getElem?_eq_some_iff.mp hs'
  by_contra hjj
  have hlt := start_lt_stop hne
  have hover := (apart_iff_getElem spans).mp h j j' hj hj' hjj
  rw [overlaps_eq_false_iff] at hover
  rw [contains_iff] at hcontains hcontains'
  omega

end Span

/-! ### Documents -/

variable {text : Text} {sentences tokens : List Span} {full : List TokenizedText}

lemma exists_projectDocument (h : ∀ s ∈ sentences, s.stop ≤ text.length) (tokens : List Span) :
    ∃ full, projectDocument text sentences tokens = .ok full := by
  simp only [projectDocument, Except.mapM_eq_ok_iff]
  induction sentences with
  | nil => exact ⟨[], .nil⟩
  | cons s sentences ih =>
    obtain ⟨hs, hrest⟩ := List.forall_mem_cons.mp h
    obtain ⟨t, ht⟩ := exists_projectSentence hs tokens
    obtain ⟨full, hfull⟩ := ih hrest
    exact ⟨t :: full, .cons ht hfull⟩

lemma map_spans_of_projectDocument (h : projectDocument text sentences tokens = .ok full) :
    full.map (·.spans) = sentences.map (·.projectTokens tokens) := by
  rw [projectDocument, Except.mapM_eq_ok_iff] at h
  induction h with
  | nil => rfl
  | cons hs _ ih => rw [List.map_cons, List.map_cons, ih, (projectSentence_eq_ok_iff.mp hs).2.2]

lemma getElem?_map_spans (h : projectDocument text sentences tokens = .ok full) (j : Nat) :
    full[j]?.map (·.spans) = sentences[j]?.map (·.projectTokens tokens) := by
  rw [← List.getElem?_map, map_spans_of_projectDocument h, List.getElem?_map]

/-- The token at place `i` leaves a span in the sentence at place `j`: without the token this
sentence has one span less. -/
def Contributes (text : Text) (sentences tokens : List Span) (i j : Nat) : Prop :=
  ∃ full lacking t u s, projectDocument text sentences tokens = .ok full ∧
    projectDocument text sentences (tokens.eraseIdx i) = .ok lacking ∧
    full[j]? = some t ∧ lacking[j]? = some u ∧ t.spans.Perm (s :: u.spans)

lemma contributes_iff (h : ∀ s ∈ sentences, s.stop ≤ text.length) {i : Nat} {token : Span}
    (hi : tokens[i]? = some token) (j : Nat) :
    Contributes text sentences tokens i j ↔
      ∃ sentence, sentences[j]? = some sentence ∧ sentence.contains token = true := by
  have hperm : tokens.Perm (token :: tokens.eraseIdx i) := by
    obtain ⟨hlt, rfl⟩ := List.getElem?_eq_some_iff.mp hi
    exact (List.getElem_cons_eraseIdx_perm hlt).symm
  constructor
  · rintro ⟨full, lacking, t, u, s, hfull, hlacking, ht, hu, hspans⟩
    have htokens := getElem?_map_spans hfull j
    have hrest := getElem?_map_spans hlacking j
    rw [ht, Option.map_some, eq_comm, Option.map_eq_some_iff] at htokens
    obtain ⟨sentence, hsentence, hprojected⟩ := htokens
    rw [hu, hsentence, Option.map_some, Option.map_some, Option.some_inj] at hrest
    refine ⟨sentence, hsentence, by_contra fun hnot => ?_⟩
    -- without a token that lies outside of it the sentence has as many spans as with it
    rw [← hprojected, hrest] at hspans
    have hsame := Span.projectTokens_perm sentence hperm
    rw [Span.projectTokens_cons_of_not_contains hnot] at hsame
    have hlength := (hsame.symm.trans hspans).length_eq
    simp at hlength
  · rintro ⟨sentence, hsentence, hcontains⟩
    obtain ⟨full, hfull⟩ := exists_projectDocument h tokens
    obtain ⟨lacking, hlacking⟩ := exists_projectDocument h (tokens.eraseIdx i)
    have htokens := getElem?_map_spans hfull j
    have hrest := getElem?_map_spans hlacking j
    rw [hsentence, Option.map_some, Option.map_eq_some_iff] at htokens hrest
    obtain ⟨t, ht, htspans⟩ := htokens
    obtain ⟨u, hu, huspans⟩ := hrest
    refine ⟨full, lacking, t, u, token.relativeTo sentence, hfull, hlacking, ht, hu, ?_⟩
    rw [htspans, huspans]
    exact (Span.projectTokens_perm sentence hperm).trans
      (Span.projectTokens_cons_perm hcontains _)

variable {i : Nat} {token : Span}

lemma Contributes.unique (hwithin : ∀ s ∈ sentences, s.stop ≤ text.length)
    (hapart : Span.Apart sentences) (hi : tokens[i]? = some token) (hne : token.isEmpty = false)
    {j j' : Nat} (h : Contributes text sentences tokens i j)
    (h' : Contributes text sentences tokens i j') : j = j' := by
  obtain ⟨s, hs, hcontains⟩ := (contributes_iff hwithin hi j).mp h
  obtain ⟨s', hs', hcontains'⟩ := (contributes_iff hwithin hi j').mp h'
  exact Span.eq_of_contains_of_apart hapart hne hs hs' hcontains hcontains'

lemma exists_contributes_iff (hwithin : ∀ s ∈ sentences, s.stop ≤ text.length)
    (htiles : Span.Tiles 0 text.length sentences) (hi : tokens[i]? = some token)
    (hne : token.isEmpty = false) (hstop : token.stop ≤ text.length) :
    (∃ j, Contributes text sentences tokens i j) ↔
      ∀ c ∈ Span.boundaries sentences, c ≤ token.start ∨ token.stop ≤ c := by
  rw [← htiles.exists_contains_iff hne (Nat.zero_le _) hstop]
  constructor
  · rintro ⟨j, hj⟩
    obtain ⟨s, hs, hcontains⟩ := (contributes_iff hwithin hi j).mp hj
    exact ⟨s, List.mem_of_getElem? hs, hcontains⟩
  · rintro ⟨s, hs, hcontains⟩
    obtain ⟨j, hj⟩ := List.mem_iff_getElem?.mp hs
    exact ⟨j, (contributes_iff hwithin hi j).mpr ⟨s, hj, hcontains⟩⟩

/-- **Sentences part the tokens among them.** Of sentences that do not overlap, a token that is not
empty leaves a span in one at most. If the sentences tile the text, a token within it leaves no
span exactly if a boundary lies strictly inside the token, and otherwise in one sentence. -/
theorem contributes_at_most_once (hwithin : ∀ s ∈ sentences, s.stop ≤ text.length)
    (hapart : Span.Apart sentences) (tokens : List Span) :
    (∃ full, projectDocument text sentences tokens = .ok full) ∧
    ∀ i token, tokens[i]? = some token → token.isEmpty = false →
      (∀ j j', Contributes text sentences tokens i j → Contributes text sentences tokens i j' →
        j = j') ∧
      (Span.Tiles 0 text.length sentences → token.stop ≤ text.length →
        ((∀ j, ¬ Contributes text sentences tokens i j) ↔
          ∃ c ∈ Span.boundaries sentences, token.start < c ∧ c < token.stop) ∧
        ((∃! j, Contributes text sentences tokens i j) ↔
          ¬ ∃ c ∈ Span.boundaries sentences, token.start < c ∧ c < token.stop)) := by
  refine ⟨exists_projectDocument hwithin tokens, fun i token hi hne => ?_⟩
  have hunique : ∀ j j', Contributes text sentences tokens i j →
      Contributes text sentences tokens i j' → j = j' :=
    fun j j' => Contributes.unique hwithin hapart hi hne
  refine ⟨hunique, fun htiles hstop => ?_⟩
  have hsome : (∃ j, Contributes text sentences tokens i j) ↔
      ¬ ∃ c ∈ Span.boundaries sentences, token.start < c ∧ c < token.stop := by
    rw [exists_contributes_iff hwithin htiles hi hne hstop]
    push Not
    exact forall₂_congr fun c _ => by omega
  constructor
  · rw [← not_exists, hsome, not_not]
  · rw [← hsome]
    exact ⟨fun h => h.exists, fun ⟨j, hj⟩ => ⟨j, hj, fun j' hj' => hunique j' j hj' hj⟩⟩

/-- The first sentence with the space after it, an empty one, and the second sentence. -/
def tiledSentences : List Span :=
  [{ start := 0, stop := 10 }, { start := 10, stop := 10 }, lastSentence]

/-- The stop of the first sentence and the first word of the second as one token. -/
def straddlingToken : Span := { start := 8, stop := 12 }

theorem contributes_at_most_once_straddling :
    (∀ s ∈ tiledSentences, s.stop ≤ twoSentences.length) ∧ Span.Apart tiledSentences ∧
    Span.Tiles 0 twoSentences.length tiledSentences ∧
    (∀ j, ¬ Contributes twoSentences tiledSentences (straddlingToken :: scatteredTokens) 0 j) ∧
    ∃! j, Contributes twoSentences tiledSentences (straddlingToken :: scatteredTokens) 1 j := by
  have hwithin : ∀ s ∈ tiledSentences, s.stop ≤ twoSentences.length := by decide
  have hapart : Span.Apart tiledSentences := by
    rw [Span.Apart]
    decide
  have htiles : Span.Tiles 0 twoSentences.length tiledSentences := ⟨rfl, rfl, rfl, rfl⟩
  have hparts :=
    (contributes_at_most_once hwithin hapart (straddlingToken :: scatteredTokens)).2
  refine ⟨hwithin, hapart, htiles, ?_, ?_⟩
  · refine ((hparts 0 straddlingToken rfl rfl).2 htiles (by decide)).1.mpr ⟨10, ?_⟩
    decide
  · exact ((hparts 1 _ rfl rfl).2 htiles (by decide)).2.mpr (by decide)

end TaggedCorpus
