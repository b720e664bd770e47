import TaggedCorpus.Proofs.Marker
import TaggedCorpus.Proofs.Sentence.Sound

/-!
What each word is, and which labels there are.

A word is plain unless it begins like a marker, and then it is a marker or unknown. The labels that
are read off opening markers are those that the spans of samples may have: writing a label into a
marker and reading the marker gives the label again or an unknown marker, and it is unknown exactly
if the label makes no sample.
-/

namespace TaggedCorpus

/-! ### Words that begin like a marker -/

/-- The word goes on after one of the two stems as markers do, or with no more than a line feed. -/
def BeginsLikeMarker (word : Text) : Prop :=
  ∃ stem ∈ ["<START".toList, "<END".toList], ∃ rest, word = stem ++ rest ∧
    (rest = [] ∨ rest = ['\n'] ∨ rest.head? = some ':' ∨ rest.head? = some '>')

namespace Marker

lemma isMarkerTail_iff (rest : Text) :
    isMarkerTail rest = true ↔
      rest = [] ∨ rest = ['\n'] ∨ rest.head? = some ':' ∨ rest.head? = some '>' := by
  cases rest with
  | nil => simp [isMarkerTail]
  | cons c rest =>
    simp only [isMarkerTail, Bool.or_eq_true, Bool.and_eq_true, beq_iff_eq, List.isEmpty_iff,
      reduceCtorEq, List.cons.injEq, List.head?_cons, Option.some.injEq, false_or]
    tauto

lemma any_isPrefixOf?_iff (stem word : Text) :
    (stem.isPrefixOf? word).any isMarkerTail = true ↔
      ∃ rest, word = stem ++ rest ∧ isMarkerTail rest = true := by
  simp only [Option.any_eq_true, List.isPrefixOf?_eq_some_iff_append_eq, @eq_comm _ word]

lemma resembles_iff (word : Text) : resembles word = true ↔ BeginsLikeMarker word := by
  have hstems : ["<START".toList, "<END".toList] = [openingStem, closingStem] := rfl
  simp only [resembles, Bool.or_eq_true, any_isPrefixOf?_iff, isMarkerTail_iff, BeginsLikeMarker,
    hstems, List.mem_cons, List.not_mem_nil, or_false, exists_eq_or_imp, exists_eq_left]

lemma opening_injective : Function.Injective opening := by
  intro label label' h
  cases label <;> cases label' <;> simp_all [opening, openingStem]

end Marker

namespace Role

variable {word : Text}

lemma ofWord_eq_plain_iff : ofWord word = .ok .plain ↔ ¬ BeginsLikeMarker word := by
  rw [← Marker.resembles_iff]
  constructor
  · intro h hr
    simp only [ofWord, hr, Bool.not_true, Bool.false_eq_true, if_false] at h
    split at h
    · cases h
    · split at h
      · cases h
      · split at h <;> cases h
  · intro h
    simp [ofWord, h]

lemma ofWord_eq_error_iff :
    ofWord word = .error ⟨word⟩ ↔ BeginsLikeMarker word ∧ word ≠ Marker.closing ∧
      ∀ label, (∀ l ∈ label, isLabel l = true) → word ≠ Marker.opening label := by
  constructor
  · intro h
    refine ⟨?_, ?_, ?_⟩
    · by_contra hplain
      rw [ofWord_eq_plain_iff.mpr hplain] at h
      cases h
    · rintro rfl
      rw [ofWord_closing] at h
      cases h
    · rintro label hlabel rfl
      rw [ofWord_opening hlabel] at h
      cases h
  · rintro ⟨hbegins, hclosing, hopening⟩
    rcases ofWord_cases word with hplain | ⟨hword, -⟩ | ⟨label, hword, hlabel, -⟩ | herror
    · exact absurd hbegins (ofWord_eq_plain_iff.mp hplain)
    · exact absurd hword hclosing
    · exact absurd hword (hopening label hlabel)
    · exact herror

lemma ofWord_opening_eq_error_iff (label : Text) :
    ofWord (Marker.opening (some label)) = .error ⟨Marker.opening (some label)⟩ ↔
      ¬ isLabel label = true := by
  rw [ofWord_eq_error_iff]
  constructor
  · rintro ⟨-, -, hopening⟩ hlabel
    exact hopening (some label) (by simpa using hlabel) rfl
  · intro hlabel
    refine ⟨(Marker.resembles_iff _).mp (Marker.resembles_opening _), ?_, ?_⟩
    · simp [Marker.opening, Marker.openingStem, Marker.closing, Marker.closingStem]
    · intro label' hlabels heq
      obtain rfl := Marker.opening_injective heq
      exact hlabel (hlabels label rfl)

end Role

/-! ### Labels of samples -/

lemma isLabel_iff (label : Text) :
    isLabel label = true ↔
      label ≠ [] ∧ ∀ c ∈ label, c ≠ ':' ∧ c ≠ '>' ∧ Text.isWhiteSpace c = false := by
  simp only [isLabel, isLabelChar, Bool.and_eq_true, Bool.not_eq_true', List.isEmpty_eq_false_iff,
    List.all_eq_true, bne_iff_ne, and_assoc]

namespace Sample

/-- A span with this label makes a sample wherever it lies within the tokens. -/
def TakesLabel (label : Text) : Prop :=
  ∀ (tokens : List Text) (span : Span), span.label = some label → span.stop ≤ tokens.length →
    ∃ s, of? tokens [span] false = .ok s

/-- No sample has a span with this label. -/
def RefusesLabel (label : Text) : Prop :=
  ∀ (tokens : List Text) (spans : List Span) (reset : Bool),
    (∃ span ∈ spans, span.label = some label) → ∃ f, of? tokens spans reset = .error f

lemma takesLabel_of_isLabel {label : Text} (h : isLabel label = true) : TakesLabel label := by
  intro tokens span hspan hstop
  have hsound : Sentence.fault? tokens.length [span] = none := by
    rw [Sentence.fault?_eq_none_iff]
    refine ⟨List.forall_mem_singleton.mpr ⟨hstop, ?_⟩, by simp, ?_⟩
    · simpa [hspan] using h
    · exact List.pairwise_singleton _ span
  exact ⟨.sentence ⟨tokens, [span], hsound⟩, of?_eq_ok_iff.mpr ⟨_, rfl, rfl, rfl⟩⟩

lemma refusesLabel_of_not_isLabel {label : Text} (h : ¬ isLabel label = true) :
    RefusesLabel label := by
  rintro tokens spans reset ⟨span, hmem, hspan⟩
  cases hof : of? tokens spans reset with
  | error f => exact ⟨f, rfl⟩
  | ok s =>
    cases reset with
    | false =>
      obtain ⟨s', -, -, rfl⟩ := of?_eq_ok_iff.mp hof
      exact absurd ((s'.fits span hmem).2 label hspan) h
    | true =>
      have hne : spans.isEmpty = false := by
        cases spans with
        | nil => cases hmem
        | cons a spans => rfl
      simp [of?, hne] at hof

lemma takesLabel_iff (label : Text) : TakesLabel label ↔ isLabel label = true := by
  refine ⟨fun h => ?_, takesLabel_of_isLabel⟩
  let span : Span := { start := 0, stop := 0, label := some label }
  obtain ⟨s, hs⟩ := h [] span rfl (Nat.le_refl 0)
  by_contra hlabel
  obtain ⟨f, hf⟩ := refusesLabel_of_not_isLabel hlabel [] [span] false ⟨span, by simp, rfl⟩
  rw [hs] at hf
  cases hf

lemma refusesLabel_iff (label : Text) : RefusesLabel label ↔ ¬ isLabel label = true := by
  refine ⟨fun h hlabel => ?_, refusesLabel_of_not_isLabel⟩
  let span : Span := { start := 0, stop := 0, label := some label }
  obtain ⟨s, hs⟩ := takesLabel_of_isLabel hlabel [] span rfl (Nat.le_refl 0)
  obtain ⟨f, hf⟩ := h [] [span] false ⟨span, by simp, rfl⟩
  rw [hs] at hf
  cases hf

end Sample

/-- **Markers and labels agree.** A label that samples take is read again off the marker that is
written with it, and the marker of a label that samples refuse is unknown. A word opens an entity
only if it is written as such a marker, or as the one without a label, and it closes an entity only
if it is the closing marker. Of the other words those that begin like a marker are unknown, and
those that do not are plain. -/
theorem markers_agree_with_labels :
    (∀ label : Text,
      Marker.opening (some label) = "<START:".toList ++ label ++ ">".toList ∧
      (Sample.TakesLabel label ↔
        Role.ofWord (Marker.opening (some label)) = .ok (.opening (some label))) ∧
      (Sample.RefusesLabel label ↔
        Role.ofWord (Marker.opening (some label)) = .error ⟨Marker.opening (some label)⟩) ∧
      (Sample.TakesLabel label ∨ Sample.RefusesLabel label) ∧
      (Sample.TakesLabel label ↔
        label ≠ [] ∧ ∀ c ∈ label, c ≠ ':' ∧ c ≠ '>' ∧ Text.isWhiteSpace c = false)) ∧
    ∀ word : Text,
      (∀ label, Role.ofWord word = .ok (.opening (some label)) ↔
        word = Marker.opening (some label) ∧ Sample.TakesLabel label) ∧
      (Role.ofWord word = .ok (.opening none) ↔ word = "<START>".toList) ∧
      (Role.ofWord word = .ok .closing ↔ word = "<END>".toList) ∧
      (Role.ofWord word = .ok .plain ↔ ¬ BeginsLikeMarker word) ∧
      (Role.ofWord word = .error ⟨word⟩ ↔
        BeginsLikeMarker word ∧ word ≠ "<END>".toList ∧ word ≠ "<START>".toList ∧
          ∀ label, Sample.TakesLabel label → word ≠ Marker.opening (some label)) := by
  have hopening : "<START>".toList = Marker.opening none := rfl
  have hclosing : "<END>".toList = Marker.closing := rfl
  refine ⟨fun label => ⟨rfl, ?_, ?_, ?_, ?_⟩, fun word => ⟨fun label => ?_, ?_, ?_, ?_, ?_⟩⟩
  · simp [Sample.takesLabel_iff, Role.ofWord_eq_opening_iff]
  · rw [Sample.refusesLabel_iff, Role.ofWord_opening_eq_error_iff]
  · rw [Sample.takesLabel_iff, Sample.refusesLabel_iff]
    exact Classical.em _
  · rw [Sample.takesLabel_iff, isLabel_iff]
  · simp [Sample.takesLabel_iff, Role.ofWord_eq_opening_iff]
  · simp [hopening, Role.ofWord_eq_opening_iff]
  · rw [hclosing, Role.ofWord_eq_closing_iff]
  · exact Role.ofWord_eq_plain_iff
  · rw [Role.ofWord_eq_error_iff, Option.forall, hopening, hclosing]
    simp [Sample.takesLabel_iff]

end TaggedCorpus
