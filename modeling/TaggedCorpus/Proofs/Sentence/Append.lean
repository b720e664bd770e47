import TaggedCorpus.Proofs.Sentence.Grammar
import TaggedCorpus.Proofs.Span.Bounds

/-!
Lines put one after the other.

The words of two lines with a blank between them are the words of the first and then those of the
second, so segments of the two lines are segments of the whole, with the spans of the second moved
right by the tokens of the first. No check can fail that did not fail before, except that two
entities without a token may come to stand at the same place where the lines meet.
-/

namespace TaggedCorpus

/-! ### Marks of appended words -/

lemma marksFrom_append (n : Nat) (us ws : List Text) :
    marksFrom n (us ++ ws) = marksFrom n us ++ marksFrom (n + (plainWords us).length) ws := by
  induction us generalizing n with
  | nil => rfl
  | cons w us ih =>
    rw [List.cons_append, marksFrom, marksFrom]
    rcases hw : Role.ofWord w with _ | (_ | _ | _)
    · simp [plainWords, IsPlain, hw, ih]
    · simp [plainWords, IsPlain, hw, ih, Nat.add_assoc, Nat.add_comm 1]
    · simp [plainWords, IsPlain, hw, ih]
    · simp [plainWords, IsPlain, hw, ih]

lemma Alternating.of_append {us ws : List Role} (h : Alternating (us ++ ws))
    (hus : Alternating us) : Alternating ws := by
  induction hus with
  | nil => exact h
  | pair label _ ih =>
    cases h with
    | pair _ hrest => exact ih hrest

namespace Segment

lemma spansFrom_eq_map (n : Nat) (segs : List Segment) :
    spansFrom n segs = (spansFrom 0 segs).map (Span.movedRight n) := by
  suffices h : ∀ m, spansFrom (m + n) segs = (spansFrom m segs).map (Span.movedRight n) by
    simpa using h 0
  intro m
  induction segs generalizing m with
  | nil => rfl
  | cons seg segs ih =>
    cases seg with
    | token t => simpa [spansFrom, Nat.add_right_comm] using ih (m + 1)
    | entity label ts =>
      simp only [spansFrom, List.map_cons, ← ih, Nat.add_right_comm m n]
      rfl

lemma exists_of_append {segs : List Segment} (h : ∀ seg ∈ segs, seg.Readable) {ws : List Text}
    (hws : WellMarked (wordsOf segs ++ ws)) :
    ∃ rest : List Segment, (∀ seg ∈ rest, seg.Readable) ∧ wordsOf rest = ws := by
  -- the markers of whole segments take turns, and so those after them do
  have halternating := hws.alternating
  rw [marksFrom_append, List.map_append] at halternating
  refine (exists_of_alternating (fun w hw => hws.known w (List.mem_append_right _ hw)) _).1
    (halternating.of_append (alternating_wordsOf h))

end Segment

/-! ### Where two sentences meet -/

namespace Sentence

/-- Both sentences have an empty span with the same label where the first ends and the second
begins. -/
def Collide (s₁ s₂ : Sentence) : Prop :=
  ∃ a ∈ s₁.spans, ∃ b ∈ s₂.spans, a.start = s₁.tokens.length ∧ a.stop = s₁.tokens.length ∧
    b.start = 0 ∧ b.stop = 0 ∧ a.label = b.label

lemma nodup_append_iff (s₁ s₂ : Sentence) :
    (s₁.spans ++ s₂.spans.map (Span.movedRight s₁.tokens.length)).Nodup ↔ ¬ Collide s₁ s₂ := by
  have hmoved : (s₂.spans.map (Span.movedRight s₁.tokens.length)).Nodup :=
    s₂.nodup.map (Span.movedRight_injective _)
  -- a span of the first sentence does not reach past the place where the second begins
  have hmeet : ∀ a ∈ s₁.spans, ∀ b : Span, b.movedRight s₁.tokens.length = a ↔
      a.start = s₁.tokens.length ∧ a.stop = s₁.tokens.length ∧ b.start = 0 ∧ b.stop = 0 ∧
        a.label = b.label := by
    intro a ha b
    have hfits := (s₁.fits a ha).1
    have hle := b.start_le_stop
    simp only [Span.ext_iff, Span.movedRight]
    constructor
    · rintro ⟨hstart, hstop, hlabel⟩
      exact ⟨by omega, by omega, by omega, by omega, hlabel.symm⟩
    · rintro ⟨hstart, hstop, hstart', hstop', hlabel⟩
      exact ⟨by omega, by omega, hlabel.symm⟩
  rw [List.nodup_append', and_iff_right s₁.nodup, and_iff_right hmoved, Collide,
    List.disjoint_left]
  simp only [List.mem_map]
  constructor
  · rintro hdisjoint ⟨a, ha, b, hb, heq⟩
    exact hdisjoint ha ⟨b, hb, (hmeet a ha b).mpr heq⟩
  · rintro hnone a ha ⟨b, hb, heq⟩
    exact hnone ⟨a, ha, b, hb, (hmeet a ha b).mp heq⟩

end Sentence

/-! ### Words put one after the other -/

variable {us ws : List Text} {s₁ s₂ : Sentence}

lemma exists_segments_append (h₁ : decodeWords us = .ok s₁) (h₂ : decodeWords ws = .ok s₂) :
    ∃ segs : List Segment, (∀ seg ∈ segs, seg.Readable) ∧ Segment.wordsOf segs = us ++ ws ∧
      Segment.tokensOf segs = s₁.tokens ++ s₂.tokens ∧
      Segment.spansFrom 0 segs = s₁.spans ++ s₂.spans.map (Span.movedRight s₁.tokens.length) := by
  obtain ⟨segs, hsegs, rfl, htokens, hspans⟩ := exists_segments_of_decodeWords h₁
  obtain ⟨rest, hrest, rfl, htokens', hspans'⟩ := exists_segments_of_decodeWords h₂
  refine ⟨segs ++ rest, List.forall_mem_append.mpr ⟨hsegs, hrest⟩, ?_, ?_, ?_⟩
  · exact Segment.wordsOf_append segs rest
  · rw [Segment.tokensOf_append, htokens, htokens']
  · rw [Segment.spansFrom_append, Nat.zero_add, Segment.spansFrom_eq_map _ rest, hspans, hspans',
      htokens]

lemma decodeWords_append (h₁ : decodeWords us = .ok s₁) (h₂ : decodeWords ws = .ok s₂)
    (h : ¬ s₁.Collide s₂) :
    ∃ s, decodeWords (us ++ ws) = .ok s ∧ s.tokens = s₁.tokens ++ s₂.tokens ∧
      s.spans = s₁.spans ++ s₂.spans.map (Span.movedRight s₁.tokens.length) := by
  obtain ⟨segs, hsegs, hwords, htokens, hspans⟩ := exists_segments_append h₁ h₂
  have hnodup : (Segment.spansFrom 0 segs).Nodup := by
    rw [hspans]
    exact (Sentence.nodup_append_iff s₁ s₂).mpr h
  rw [← hwords]
  exact ⟨_, decodeWords_eq_sentence segs hsegs hnodup, htokens, hspans⟩

lemma decodeWords_append_of_collide (h₁ : decodeWords us = .ok s₁) (h₂ : decodeWords ws = .ok s₂)
    (h : s₁.Collide s₂) : decodeWords (us ++ ws) = .error (.sentence .duplicate) := by
  obtain ⟨segs, hsegs, hwords, htokens, hspans⟩ := exists_segments_append h₁ h₂
  have hnodup : ¬ (Segment.spansFrom 0 segs).Nodup := by
    rw [hspans]
    exact fun hn => (Sentence.nodup_append_iff s₁ s₂).mp hn h
  rw [← hwords, decodeWords_wordsOf hsegs,
    Sentence.of?_eq_error (Segment.fault?_eq_duplicate hsegs hnodup)]
  rfl

lemma exists_decodeWords_of_append (h₁ : decodeWords us = .ok s₁)
    (h : ∃ s, decodeWords (us ++ ws) = .ok s) : ∃ s₂, decodeWords ws = .ok s₂ := by
  obtain ⟨segs, hsegs, rfl, -, -⟩ := exists_segments_of_decodeWords h₁
  rw [exists_decodeWords_iff] at h
  obtain ⟨rest, hrest, rfl⟩ := Segment.exists_of_append hsegs h
  have hall : ∀ seg ∈ segs ++ rest, seg.Readable := List.forall_mem_append.mpr ⟨hsegs, hrest⟩
  rw [← Segment.wordsOf_append, Segment.wellMarked_wordsOf_iff hall, Segment.spansFrom_append,
    Segment.spansFrom_eq_map _ rest] at h
  exact ⟨_, decodeWords_eq_sentence rest hrest (List.Nodup.of_map _ h.of_append_right)⟩

/-! ### Lines put one after the other -/

/-- **Decoding line by line and at once.** Two lines with a space between them stand for the
sentence that has the tokens of both and the spans of both, those of the second moved right by the
tokens of the first, unless the sentences collide, and then repeated spans are what is wrong. What
follows a line that stands for a sentence has to stand for one too if both together do. -/
theorem decodeLine_append {l₁ : Text} {s₁ : Sentence} (h₁ : decodeLine l₁ = .ok s₁) (l₂ : Text) :
    (∀ s₂, decodeLine l₂ = .ok s₂ →
      ∃ moved, s₂.spans.mapM (·.shift (-s₁.tokens.length)) = .ok moved ∧
        ((∃ s, decodeLine (l₁ ++ ' ' :: l₂) = .ok s ∧ s.tokens = s₁.tokens ++ s₂.tokens ∧
          s.spans = s₁.spans ++ moved) ↔ ¬ s₁.Collide s₂) ∧
        (decodeLine (l₁ ++ ' ' :: l₂) =
            .error { reason := .sentence .duplicate, line := l₁ ++ ' ' :: l₂ } ↔
          s₁.Collide s₂)) ∧
    ((∃ s, decodeLine (l₁ ++ ' ' :: l₂) = .ok s) → ∃ s₂, decodeLine l₂ = .ok s₂) := by
  have hwords : (l₁ ++ ' ' :: l₂).words = l₁.words ++ l₂.words :=
    Text.words_append_cons l₁ (by decide) l₂
  simp only [decodeLine_eq_ok_iff] at h₁ ⊢
  rw [hwords]
  refine ⟨fun s₂ h₂ => ⟨s₂.spans.map (Span.movedRight s₁.tokens.length), ?_, ?_⟩,
    exists_decodeWords_of_append h₁⟩
  · exact Except.mapM_eq_ok_map fun s _ => Span.shift_neg s _
  · rw [decodeLine, hwords]
    by_cases h : s₁.Collide s₂
    · have hboth := decodeWords_append_of_collide h₁ h₂ h
      simp [hboth, h, Except.mapError]
    · obtain ⟨s, hs, htokens, hspans⟩ := decodeWords_append h₁ h₂ h
      refine ⟨iff_of_true ⟨s, hs, htokens, hspans⟩ h, iff_of_false ?_ h⟩
      rw [hs]
      exact fun heq => by cases heq

/-- A line that ends with an entity without a token. -/
def emptyEndLine : Text := "a <START:x> <END>".toList

/-- A line that begins with the same entity. -/
def sameBeginLine : Text := "<START:x> <END> <START:x> b <END>".toList

/-- A line that begins with an entity with another label. -/
def otherBeginLine : Text := "<START:y> <END> <START:x> b <END>".toList

theorem decodeLine_append_emptyEnd :
    ∃ s₁ s₂ s₃, decodeLine emptyEndLine = .ok s₁ ∧ decodeLine sameBeginLine = .ok s₂ ∧
      decodeLine otherBeginLine = .ok s₃ ∧
      decodeLine (emptyEndLine ++ ' ' :: sameBeginLine) =
        .error { reason := .sentence .duplicate, line := emptyEndLine ++ ' ' :: sameBeginLine } ∧
      ∃ moved s, s₃.spans.mapM (·.shift (-s₁.tokens.length)) = .ok moved ∧
        decodeLine (emptyEndLine ++ ' ' :: otherBeginLine) = .ok s ∧
        s.tokens = s₁.tokens ++ s₃.tokens ∧ s.spans = s₁.spans ++ moved := by
  have h₁ := decodeLine_eq_sentence emptyEndLine [.token ['a'], .entity (some ['x']) []]
    (by decide) (by decide) (by decide)
  have h₂ := decodeLine_eq_sentence sameBeginLine
    [.entity (some ['x']) [], .entity (some ['x']) [['b']]] (by decide) (by decide) (by decide)
  have h₃ := decodeLine_eq_sentence otherBeginLine
    [.entity (some ['y']) [], .entity (some ['x']) [['b']]] (by decide) (by decide) (by decide)
  obtain ⟨_, -, -, hsame⟩ := (decodeLine_append h₁ sameBeginLine).1 _ h₂
  obtain ⟨moved, hmoved, hother, -⟩ := (decodeLine_append h₁ otherBeginLine).1 _ h₃
  obtain ⟨s, hs⟩ := hother.mpr (by rw [Sentence.Collide]; decide)
  exact ⟨_, _, _, h₁, h₂, h₃, hsame.mpr (by rw [Sentence.Collide]; decide), moved, s, hmoved, hs⟩

end TaggedCorpus
