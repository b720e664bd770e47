import Mathlib.Data.List.Nodup
import TaggedCorpus.Proofs.Sentence.Reading

/-!
The grammar of lines, said without a decoder.

The markers of a line alternate, opening first and closing last, and no two entities without a
token are the same. These lines and no others stand for sentences, and what they stand for is
found by counting: the tokens are the plain words, and an entity starts and stops after as many
tokens as there are plain words before its two markers.
-/

namespace TaggedCorpus

/-- The tokens of a line. -/
def plainWords (ws : List Text) : List Text := ws.filter fun w => IsPlain w

/-- The roles of the markers among the words, each with the number of plain words before it, of
which `n` come before the first of these words. -/
def marksFrom : (n : Nat) → List Text → List (Nat × Role)
  | _, [] => []
  | n, w :: ws => match Role.ofWord w with
    | .error _ => marksFrom n ws
    | .ok .plain => marksFrom (n + 1) ws
    | .ok role => (n, role) :: marksFrom n ws

/-- The opening markers of a line: the number of tokens before each, and its label. -/
def openings (ws : List Text) : List Opening :=
  (marksFrom 0 ws).filterMap fun mark => match mark.2 with
    | .opening label => some ⟨mark.1, label⟩
    | _ => none

/-- The closing markers of a line: the number of tokens before each. -/
def closings (ws : List Text) : List Nat :=
  (marksFrom 0 ws).filterMap fun mark => match mark.2 with
    | .closing => some mark.1
    | _ => none

/-- Opening and closing markers take turns; an opening one comes first and a closing one last. -/
inductive Alternating : List Role → Prop
  | nil : Alternating []
  | pair (label : Option Text) {rest : List Role} (h : Alternating rest) :
    Alternating (.opening label :: .closing :: rest)

/-- The entities of a line that have no token in them: where they open, and where they close. -/
def emptyEntities (ws : List Text) : List (Opening × Nat) :=
  ((openings ws).zip (closings ws)).filter fun entity => entity.1.token == entity.2

/-- What makes a line stand for a sentence. -/
structure WellMarked (ws : List Text) : Prop where
  known : ∀ w ∈ ws, ∃ role, Role.ofWord w = .ok role
  alternating : Alternating ((marksFrom 0 ws).map Prod.snd)
  distinct : (emptyEntities ws).Nodup

/-- Where a span starts, with its label. -/
def Span.opening (s : Span) : Opening := ⟨s.start, s.label⟩

/-! ### The marks of segments -/

/-- The two marks that a span leaves on a line. -/
def Span.marks (s : Span) : List (Nat × Role) := [(s.start, .opening s.label), (s.stop, .closing)]

lemma marksFrom_append_of_plain {ts : List Text} (h : ∀ t ∈ ts, IsPlain t) (n : Nat)
    (ws : List Text) : marksFrom n (ts ++ ws) = marksFrom (n + ts.length) ws := by
  induction ts generalizing n with
  | nil => rfl
  | cons t ts ih =>
    have ht : Role.ofWord t = .ok .plain := h t (by simp)
    rw [List.cons_append, marksFrom, ht]
    change marksFrom (n + 1) (ts ++ ws) = _
    rw [ih (fun u hu => h u (by simp [hu])), List.length_cons]
    congr 1
    omega

namespace Segment

lemma marksFrom_wordsOf {segs : List Segment} (h : ∀ seg ∈ segs, seg.Readable) (n : Nat) :
    marksFrom n (wordsOf segs) = (spansFrom n segs).flatMap Span.marks := by
  induction segs generalizing n with
  | nil => rfl
  | cons seg segs ih =>
    have hseg := h seg (by simp)
    have hrest := ih fun x hx => h x (by simp [hx])
    cases seg with
    | token t =>
      have hplain : ∀ u ∈ [t], IsPlain u := List.forall_mem_singleton.mpr hseg
      rw [wordsOf_cons, words, marksFrom_append_of_plain hplain, hrest]
      rfl
    | entity label ts =>
      obtain ⟨hlabel, hplain⟩ := hseg
      simp only [wordsOf_cons, words, List.cons_append, List.append_assoc, spansFrom,
        List.flatMap_cons]
      rw [marksFrom, Role.ofWord_opening hlabel]
      simp only
      rw [marksFrom_append_of_plain hplain, List.nil_append, marksFrom, Role.ofWord_closing]
      simp only
      rw [hrest]
      rfl

lemma plainWords_wordsOf {segs : List Segment} (h : ∀ seg ∈ segs, seg.Readable) :
    plainWords (wordsOf segs) = tokensOf segs := by
  have hclosing : ¬ IsPlain Marker.closing := by decide
  induction segs with
  | nil => rfl
  | cons seg segs ih =>
    have hseg := h seg (by simp)
    have hrest := ih fun x hx => h x (by simp [hx])
    rw [plainWords] at hrest ⊢
    rw [wordsOf_cons, List.filter_append, hrest, tokensOf_cons]
    congr 1
    cases seg with
    | token t =>
      have ht : IsPlain t := hseg
      simp [words, tokens, ht]
    | entity label ts =>
      obtain ⟨hlabel, hplain⟩ := hseg
      have hopening : ¬ IsPlain (Marker.opening label) := by
        rw [IsPlain, Role.ofWord_opening hlabel]
        simp
      have hts : (ts.filter fun w => IsPlain w) = ts := by
        rw [List.filter_eq_self]
        exact fun t ht => decide_eq_true (hplain t ht)
      simp [words, tokens, hopening, hclosing, hts]

/-- What the words of segments say by counting is what the spans of the segments say. -/
lemma openings_wordsOf {segs : List Segment} (h : ∀ seg ∈ segs, seg.Readable) :
    openings (wordsOf segs) = (spansFrom 0 segs).map Span.opening := by
  rw [openings, marksFrom_wordsOf h]
  induction spansFrom 0 segs with
  | nil => rfl
  | cons s spans ih => simpa [Span.marks, Span.opening] using ih

lemma closings_wordsOf {segs : List Segment} (h : ∀ seg ∈ segs, seg.Readable) :
    closings (wordsOf segs) = (spansFrom 0 segs).map Span.stop := by
  rw [closings, marksFrom_wordsOf h]
  induction spansFrom 0 segs with
  | nil => rfl
  | cons s spans ih => simpa [Span.marks] using ih

lemma alternating_wordsOf {segs : List Segment} (h : ∀ seg ∈ segs, seg.Readable) :
    Alternating ((marksFrom 0 (wordsOf segs)).map Prod.snd) := by
  rw [marksFrom_wordsOf h]
  induction spansFrom 0 segs with
  | nil => exact .nil
  | cons s spans ih => exact .pair s.label ih

lemma known_wordsOf {segs : List Segment} (h : ∀ seg ∈ segs, seg.Readable) :
    ∀ w ∈ wordsOf segs, ∃ role, Role.ofWord w = .ok role := by
  refine (forall_mem_wordsOf_iff ⟨_, Role.ofWord_closing⟩ segs).mpr fun seg hseg => ?_
  have hr := h seg hseg
  cases seg with
  | token t => exact ⟨_, hr⟩
  | entity label ts => exact ⟨⟨_, Role.ofWord_opening hr.1⟩, fun t ht => ⟨_, hr.2 t ht⟩⟩

lemma opening_stop_injective : Function.Injective fun s : Span => (s.opening, s.stop) := by
  rintro ⟨start, stop, label, h⟩ ⟨start', stop', label', h'⟩ heq
  simp only [Span.opening, Prod.mk.injEq, Opening.mk.injEq] at heq
  obtain ⟨⟨rfl, rfl⟩, rfl⟩ := heq
  rfl

lemma emptyEntities_wordsOf {segs : List Segment} (h : ∀ seg ∈ segs, seg.Readable) :
    emptyEntities (wordsOf segs) =
      ((spansFrom 0 segs).filter Span.isEmpty).map fun s => (s.opening, s.stop) := by
  rw [emptyEntities, openings_wordsOf h, closings_wordsOf h, List.zip_map', List.filter_map]
  rfl

lemma wellMarked_wordsOf_iff {segs : List Segment} (h : ∀ seg ∈ segs, seg.Readable) :
    WellMarked (wordsOf segs) ↔ (spansFrom 0 segs).Nodup := by
  have hdistinct : (emptyEntities (wordsOf segs)).Nodup ↔ (spansFrom 0 segs).Nodup := by
    rw [emptyEntities_wordsOf h, List.nodup_map_iff opening_stop_injective,
      (chained_spansFrom 0 segs).nodup_iff]
  exact ⟨fun hw => hdistinct.mp hw.distinct,
    fun hn => ⟨known_wordsOf h, alternating_wordsOf h, hdistinct.mpr hn⟩⟩

lemma exists_of_alternating {ws : List Text} (hknown : ∀ w ∈ ws, ∃ role, Role.ofWord w = .ok role)
    (n : Nat) :
    (Alternating ((marksFrom n ws).map Prod.snd) →
      ∃ segs, (∀ seg ∈ segs, seg.Readable) ∧ wordsOf segs = ws) ∧
    ∀ label, Alternating (.opening label :: (marksFrom n ws).map Prod.snd) →
      ∃ ts segs, (∀ t ∈ ts, IsPlain t) ∧ (∀ seg ∈ segs, seg.Readable) ∧
        ts ++ Marker.closing :: wordsOf segs = ws := by
  -- the second part is about words within an entity; each part needs the other one
  induction ws generalizing n with
  | nil =>
    refine ⟨fun _ => ⟨[], by simp, rfl⟩, fun label halt => ?_⟩
    cases halt
  | cons w ws ih =>
    have ih := fun m => ih (fun v hv => hknown v (by simp [hv])) m
    obtain ⟨role, hrole⟩ := hknown w (by simp)
    rw [marksFrom, hrole]
    cases role with
    | plain =>
      have hw : IsPlain w := hrole
      refine ⟨fun halt => ?_, fun label halt => ?_⟩
      · obtain ⟨segs, hsegs, rfl⟩ := (ih (n + 1)).1 halt
        refine ⟨.token w :: segs, ?_, rfl⟩
        exact List.forall_mem_cons.mpr ⟨hw, hsegs⟩
      · obtain ⟨ts, segs, hts, hsegs, rfl⟩ := (ih (n + 1)).2 label halt
        exact ⟨w :: ts, segs, List.forall_mem_cons.mpr ⟨hw, hts⟩, hsegs, rfl⟩
    | opening label =>
      obtain ⟨rfl, hlabel⟩ := (Role.ofWord_eq_opening_iff w label).mp hrole
      refine ⟨fun halt => ?_, fun label' halt => ?_⟩
      · obtain ⟨ts, segs, hts, hsegs, rfl⟩ := (ih n).2 label halt
        refine ⟨.entity label ts :: segs, ?_, by simp [words]⟩
        exact List.forall_mem_cons.mpr ⟨⟨hlabel, hts⟩, hsegs⟩
      · cases halt
    | closing =>
      obtain rfl := (Role.ofWord_eq_closing_iff w).mp hrole
      refine ⟨fun halt => ?_, fun label halt => ?_⟩
      · cases halt
      · cases halt with
        | pair _ hrest =>
          obtain ⟨segs, hsegs, rfl⟩ := (ih n).1 hrest
          exact ⟨[], segs, by simp, hsegs, rfl⟩

end Segment

/-! ### Acceptance -/

/-- Words make a sentence exactly if they are well marked. -/
theorem exists_decodeWords_iff (ws : List Text) :
    (∃ s, decodeWords ws = .ok s) ↔ WellMarked ws := by
  constructor
  · rintro ⟨s, hs⟩
    obtain ⟨segs, hreadable, rfl, htokens, hspans⟩ := exists_segments_of_decodeWords hs
    rw [Segment.wellMarked_wordsOf_iff hreadable, hspans]
    exact s.nodup
  · intro hw
    obtain ⟨segs, hreadable, rfl⟩ := (Segment.exists_of_alternating hw.known 0).1 hw.alternating
    have hnodup := (Segment.wellMarked_wordsOf_iff hreadable).mp hw
    exact ⟨_, decodeWords_eq_sentence segs hreadable hnodup⟩

lemma tokens_spans_of_decodeWords {ws : List Text} {s : Sentence} (h : decodeWords ws = .ok s) :
    s.tokens = plainWords ws ∧ s.spans.map Span.opening = openings ws ∧
      s.spans.map Span.stop = closings ws := by
  obtain ⟨segs, hreadable, rfl, htokens, hspans⟩ := exists_segments_of_decodeWords h
  rw [Segment.plainWords_wordsOf hreadable, Segment.openings_wordsOf hreadable,
    Segment.closings_wordsOf hreadable, htokens, hspans]
  exact ⟨rfl, rfl, rfl⟩

lemma Sentence.eq_of_tokens_spans {s s' : Sentence} (htokens : s.tokens = s'.tokens)
    (hopening : s.spans.map Span.opening = s'.spans.map Span.opening)
    (hstop : s.spans.map Span.stop = s'.spans.map Span.stop) : s = s' := by
  have hspans : s.spans = s'.spans := by
    refine Segment.opening_stop_injective.list_map ?_
    rw [← List.zip_map', ← List.zip_map', hopening, hstop]
  cases s
  cases s'
  simp_all

/-- **What lines stand for sentences**: those that are well marked. What such a line is read as
is no control sample; it has the plain words as its tokens, and its spans start where the opening
markers stand, with their labels, and stop where the closing ones stand. Any other line is
malformed, and reported as it is. -/
theorem decodeLine_iff_wellMarked (line : Text) :
    (∀ s : Sample, (decodeLine line).map .sentence = .ok s ↔
      WellMarked line.words ∧ s.isControl = false ∧ s.tokens = plainWords line.words ∧
        s.spans.map Span.opening = openings line.words ∧
        s.spans.map Span.stop = closings line.words) ∧
    ((∃ s, decodeLine line = .ok s) ↔ WellMarked line.words) ∧
    ((∃ reason, decodeLine line = .error { reason, line }) ↔ ¬ WellMarked line.words) := by
  have haccept : (∃ s, decodeLine line = .ok s) ↔ WellMarked line.words := by
    simp only [decodeLine_eq_ok_iff, exists_decodeWords_iff]
  refine ⟨fun s => ⟨fun h => ?_, fun ⟨hw, hcontrol, htokens, hopening, hstop⟩ => ?_⟩, haccept, ?_⟩
  · obtain ⟨s, hs, rfl⟩ := Except.map_eq_ok_iff.mp h
    exact ⟨haccept.mp ⟨s, hs⟩, rfl,
      tokens_spans_of_decodeWords ((decodeLine_eq_ok_iff line s).mp hs)⟩
  · cases s with
    | control => cases hcontrol
    | sentence s =>
      obtain ⟨s', hs'⟩ := haccept.mpr hw
      obtain ⟨htokens', hopening', hstop'⟩ :=
        tokens_spans_of_decodeWords ((decodeLine_eq_ok_iff line s').mp hs')
      obtain rfl : s = s' := Sentence.eq_of_tokens_spans (htokens.trans htokens'.symm)
        (hopening.trans hopening'.symm) (hstop.trans hstop'.symm)
      exact Except.map_eq_ok_iff.mpr ⟨s, hs', rfl⟩
  · simp only [← haccept, decodeLine, Except.mapError_eq_error_iff, Except.mapError_eq_ok_iff]
    cases decodeWords line.words with
    | error reason => simp
    | ok s => simp

end TaggedCorpus
