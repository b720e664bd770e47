import TaggedCorpus.Proofs.Marker
import TaggedCorpus.Proofs.Sentence.Sound
import TaggedCorpus.Sentence.Line

/-!
Segments: what the words of a line fall into.

A line is a sequence of tokens and of entities, each with the tokens inside it. The segments
determine the words, the tokens and the spans; and weaving the markers of the spans between the
tokens gives the words again, whatever segments one started from. Any chain of spans over any
tokens comes from segments.
-/

namespace TaggedCorpus

/-- A token outside of all entities, or an entity with the tokens in it. -/
inductive Segment
  | token (t : Text)
  | entity (label : Option Text) (tokens : List Text)

namespace Segment

def tokens : Segment → List Text
  | token t => [t]
  | entity _ ts => ts

def words : Segment → List Text
  | token t => [t]
  | entity label ts => Marker.opening label :: ts ++ [Marker.closing]

/-- The tokens of segments, in order. -/
def tokensOf (segs : List Segment) : List Text := segs.flatMap tokens

/-- The words of the line that segments make. -/
def wordsOf (segs : List Segment) : List Text := segs.flatMap words

/-- The spans of segments before which there are `n` tokens. -/
def spansFrom : (n : Nat) → List Segment → List Span
  | _, [] => []
  | n, token _ :: rest => spansFrom (n + 1) rest
  | n, entity label ts :: rest =>
    { start := n, stop := n + ts.length, label } :: spansFrom (n + ts.length) rest

@[simp] lemma tokensOf_nil : tokensOf [] = [] := rfl
@[simp] lemma tokensOf_cons (seg : Segment) (segs : List Segment) :
    tokensOf (seg :: segs) = seg.tokens ++ tokensOf segs := rfl
@[simp] lemma tokensOf_append (segs segs' : List Segment) :
    tokensOf (segs ++ segs') = tokensOf segs ++ tokensOf segs' := by simp [tokensOf]

@[simp] lemma wordsOf_nil : wordsOf [] = [] := rfl
@[simp] lemma wordsOf_cons (seg : Segment) (segs : List Segment) :
    wordsOf (seg :: segs) = seg.words ++ wordsOf segs := rfl
@[simp] lemma wordsOf_append (segs segs' : List Segment) :
    wordsOf (segs ++ segs') = wordsOf segs ++ wordsOf segs' := by simp [wordsOf]

lemma spansFrom_append (n : Nat) (segs segs' : List Segment) :
    spansFrom n (segs ++ segs') =
      spansFrom n segs ++ spansFrom (n + (tokensOf segs).length) segs' := by
  induction segs generalizing n with
  | nil => simp [spansFrom]
  | cons seg segs ih =>
    cases seg <;> simp [spansFrom, ih, tokens, Nat.add_assoc, Nat.add_comm 1]

/-! ### Bounds -/

lemma start_of_mem_spansFrom {n : Nat} {segs : List Segment} {s : Span}
    (h : s ∈ spansFrom n segs) : n ≤ s.start := by
  induction segs generalizing n with
  | nil => simp [spansFrom] at h
  | cons seg segs ih =>
    cases seg with
    | token t =>
      have := ih h
      omega
    | entity label ts =>
      rcases List.mem_cons.mp h with rfl | h
      · exact Nat.le_refl n
      · have := ih h
        omega

lemma stop_of_mem_spansFrom {n : Nat} {segs : List Segment} {s : Span}
    (h : s ∈ spansFrom n segs) : s.stop ≤ n + (tokensOf segs).length := by
  induction segs generalizing n with
  | nil => simp [spansFrom] at h
  | cons seg segs ih =>
    simp only [tokensOf_cons, List.length_append]
    cases seg with
    | token t =>
      have := ih h
      simp only [tokens, List.length_singleton]
      omega
    | entity label ts =>
      simp only [tokens]
      rcases List.mem_cons.mp h with rfl | h
      · simp only
        omega
      · have := ih h
        omega

lemma chained_spansFrom (n : Nat) (segs : List Segment) : Span.Chained (spansFrom n segs) := by
  induction segs generalizing n with
  | nil => exact List.Pairwise.nil
  | cons seg segs ih =>
    cases seg with
    | token t => exact ih (n + 1)
    | entity label ts =>
      exact List.Pairwise.cons (fun s hs => start_of_mem_spansFrom hs) (ih (n + ts.length))

end Segment

/-! ### Marks between the tokens -/

namespace Sentence

variable {spans : List Span} {e : Span} {i : Nat}

lemma closingsAt_eq_nil (h : ∀ s ∈ spans, i ≤ s.start) : closingsAt spans i = [] := by
  rw [closingsAt, List.replicate_eq_nil_iff, List.countP_eq_zero]
  intro s hs
  have := h s hs
  have := s.start_le_stop
  simp [Span.isEmpty]
  omega

lemma startingAt_eq_nil (h : ∀ s ∈ spans, i < s.start) : startingAt spans i = [] := by
  have hnone : (spans.filter fun s => s.start == i) = [] := by
    rw [List.filter_eq_nil_iff]
    intro s hs
    have := h s hs
    simp
    omega
  simp [startingAt, hnone]

lemma startingAt_cons (hstart : e.start = i)
    (h : ∀ s ∈ spans, s.start = i → e.stop ≤ s.stop) :
    startingAt (e :: spans) i = e :: startingAt spans i := by
  have hfilter : ((e :: spans).filter fun s => s.start == i) =
      e :: spans.filter fun s => s.start == i := by simp [hstart]
  rw [startingAt, hfilter]
  refine mergeSort_cons_of_forall_le Span.stop_le_trans Span.stop_le_total fun s hs => ?_
  obtain ⟨hs, hi⟩ := List.mem_filter.mp hs
  simpa using h s hs (by simpa using hi)

lemma marksAt_eq_nil (h : ∀ s ∈ spans, i < s.start) : marksAt spans i = [] := by
  rw [marksAt, closingsAt_eq_nil fun s hs => Nat.le_of_lt (h s hs), startingAt_eq_nil h]
  rfl

lemma marksAt_cons_of_ne (hstart : e.start ≠ i) (hstop : e.stop ≠ i) :
    marksAt (e :: spans) i = marksAt spans i := by
  simp [marksAt, closingsAt, startingAt, hstart, hstop]

lemma marksAt_cons_stop (hlt : e.start < e.stop) :
    marksAt (e :: spans) e.stop = Marker.closing :: marksAt spans e.stop := by
  have hne : e.start ≠ e.stop := by omega
  simp [marksAt, closingsAt, startingAt, Span.isEmpty, hne, List.replicate_succ]

lemma marksAt_cons_start (hlt : e.start < e.stop) (h : ∀ s ∈ spans, e.start < s.start) :
    marksAt (e :: spans) e.start = [Marker.opening e.label] := by
  have hle : ∀ s ∈ e :: spans, e.start ≤ s.start := by
    intro s hs
    rcases List.mem_cons.mp hs with rfl | hs
    · exact Nat.le_refl _
    · exact Nat.le_of_lt (h s hs)
  have hstop : ∀ s ∈ spans, s.start = e.start → e.stop ≤ s.stop := by
    intro s hs hi
    have := h s hs
    omega
  have hne : e.start ≠ e.stop := by omega
  rw [marksAt, closingsAt_eq_nil hle, startingAt_cons rfl hstop, startingAt_eq_nil h]
  simp [openingsOf, Span.isEmpty, hne]

lemma marksAt_cons_empty (he : e.start = e.stop) (h : ∀ s ∈ spans, e.start ≤ s.start) :
    marksAt (e :: spans) e.start =
      Marker.opening e.label :: Marker.closing :: marksAt spans e.start := by
  have hle : ∀ s ∈ e :: spans, e.start ≤ s.start := by
    intro s hs
    rcases List.mem_cons.mp hs with rfl | hs
    · exact Nat.le_refl _
    · exact h s hs
  have hstop : ∀ s ∈ spans, s.start = e.start → e.stop ≤ s.stop := by
    intro s _ hi
    have := s.start_le_stop
    omega
  rw [marksAt, closingsAt_eq_nil hle, startingAt_cons rfl hstop, marksAt, closingsAt_eq_nil h]
  simp [openingsOf, Span.isEmpty, he]

/-! ### Weaving -/

lemma weave_congr {spans' : List Span} (h : ∀ j, i ≤ j → marksAt spans j = marksAt spans' j)
    (ts : List Text) : weave spans i ts = weave spans' i ts := by
  induction ts generalizing i with
  | nil => exact h i (Nat.le_refl i)
  | cons t ts ih =>
    simp only [weave]
    rw [h i (Nat.le_refl i), ih fun j hj => h j (by omega)]

/-- Marks at the first position come first, and all else is decided by the marks after it. -/
lemma weave_eq_append {spans' : List Span} {marks : List Text}
    (hfirst : marksAt spans i = marks ++ marksAt spans' i)
    (hrest : ∀ j, i < j → marksAt spans j = marksAt spans' j) (ts : List Text) :
    weave spans i ts = marks ++ weave spans' i ts := by
  cases ts with
  | nil => exact hfirst
  | cons t ts =>
    simp only [weave]
    rw [hfirst, weave_congr (fun j hj => hrest j (by omega)) ts, List.append_assoc]

lemma weave_append (ts us : List Text)
    (h : ∀ j, i ≤ j → j < i + ts.length → marksAt spans j = []) :
    weave spans i (ts ++ us) = ts ++ weave spans (i + ts.length) us := by
  induction ts generalizing i with
  | nil => simp
  | cons t ts ih =>
    simp only [List.length_cons] at h
    simp only [List.cons_append, weave, List.length_cons]
    rw [h i (by omega) (by omega), ih fun j hj hlt => h j (by omega) (by omega)]
    simp [Nat.add_assoc, Nat.add_comm 1]

end Sentence

namespace Segment

lemma weave_entity {e : Span} {spans : List Span} {ts : List Text}
    (hlen : e.stop = e.start + ts.length) (h : ∀ s ∈ spans, e.stop ≤ s.start) (us : List Text) :
    Sentence.weave (e :: spans) e.start (ts ++ us) =
      Marker.opening e.label :: ts ++ Marker.closing :: Sentence.weave spans e.stop us := by
  rcases ts with _ | ⟨t, ts⟩
  · -- an empty entity leaves both of its marks at one position
    have he : e.start = e.stop := by simpa using hlen.symm
    have hfirst : Sentence.marksAt (e :: spans) e.start =
        [Marker.opening e.label, Marker.closing] ++ Sentence.marksAt spans e.start :=
      Sentence.marksAt_cons_empty he fun s hs => he ▸ h s hs
    rw [List.nil_append, ← he]
    refine Sentence.weave_eq_append hfirst (fun j hj => ?_) us
    exact Sentence.marksAt_cons_of_ne (by omega) (by omega)
  · -- the opening marker is at the first token, the closing one after the last, and none between
    simp only [List.length_cons] at hlen
    have hlt : e.start < e.stop := by omega
    have hbetween : ∀ j, e.start + 1 ≤ j → j < e.start + 1 + ts.length →
        Sentence.marksAt (e :: spans) j = [] := by
      intro j hj hjlt
      rw [Sentence.marksAt_cons_of_ne (by omega) (by omega)]
      refine Sentence.marksAt_eq_nil fun s hs => ?_
      have := h s hs
      omega
    have hlast : Sentence.marksAt (e :: spans) e.stop =
        [Marker.closing] ++ Sentence.marksAt spans e.stop := Sentence.marksAt_cons_stop hlt
    have hafter : Sentence.weave (e :: spans) e.stop us =
        Marker.closing :: Sentence.weave spans e.stop us :=
      Sentence.weave_eq_append hlast
        (fun j hj => Sentence.marksAt_cons_of_ne (by omega) (by omega)) us
    have hstart := Sentence.marksAt_cons_start hlt fun s hs => Nat.lt_of_lt_of_le hlt (h s hs)
    simp only [List.cons_append, Sentence.weave]
    rw [hstart, Sentence.weave_append ts us hbetween,
      show e.start + 1 + ts.length = e.stop by omega, hafter]
    rfl

/-- **Rendering**: the marks of the spans woven between the tokens give the words back. -/
theorem weave_spansFrom (n : Nat) (segs : List Segment) :
    Sentence.weave (spansFrom n segs) n (tokensOf segs) = wordsOf segs := by
  induction segs generalizing n with
  | nil => simp [spansFrom, Sentence.weave, Sentence.marksAt_eq_nil]
  | cons seg segs ih =>
    cases seg with
    | token t =>
      have hnone : Sentence.marksAt (spansFrom (n + 1) segs) n = [] :=
        Sentence.marksAt_eq_nil fun s hs => start_of_mem_spansFrom hs
      simp only [tokensOf_cons, tokens, wordsOf_cons, words, List.singleton_append, spansFrom,
        Sentence.weave]
      rw [hnone, ih (n + 1)]
      rfl
    | entity label ts =>
      simp only [tokensOf_cons, tokens, wordsOf_cons, words, spansFrom]
      rw [weave_entity rfl (fun s hs => start_of_mem_spansFrom hs), ih (n + ts.length)]
      simp

/-! ### Segments of a chain -/

lemma tokensOf_map_token (ts : List Text) : tokensOf (ts.map token) = ts := by
  induction ts with
  | nil => rfl
  | cons t ts ih => simp [tokens, ih]

lemma spansFrom_map_token (n : Nat) (ts : List Text) : spansFrom n (ts.map token) = [] := by
  induction ts generalizing n with
  | nil => rfl
  | cons t ts ih => exact ih (n + 1)

/-- Every chain of spans over tokens comes from segments: between two spans the tokens stand by
themselves. -/
theorem exists_of_chained {spans : List Span} (hc : Span.Chained spans) {n : Nat}
    {ts : List Text} (h : ∀ s ∈ spans, n ≤ s.start ∧ s.stop ≤ n + ts.length) :
    ∃ segs, tokensOf segs = ts ∧ spansFrom n segs = spans := by
  induction spans generalizing n ts with
  | nil => exact ⟨ts.map token, tokensOf_map_token ts, spansFrom_map_token n ts⟩
  | cons s spans ih =>
    obtain ⟨hstart, hstop⟩ := h s (by simp)
    have hle := s.start_le_stop
    -- the tokens up to the span, inside of it, and after it
    obtain ⟨us, rest, rfl, hus⟩ : ∃ us rest, us ++ rest = ts ∧ us.length = s.start - n :=
      ⟨ts.take (s.start - n), ts.drop (s.start - n), by simp, by simp; omega⟩
    obtain ⟨vs, ws, rfl, hvs⟩ : ∃ vs ws, vs ++ ws = rest ∧ vs.length = s.stop - s.start := by
      refine ⟨rest.take (s.stop - s.start), rest.drop (s.stop - s.start), by simp, ?_⟩
      simp only [List.length_append] at hstop
      simp
      omega
    have hlater : ∀ x ∈ spans, s.stop ≤ x.start ∧ x.stop ≤ s.stop + ws.length := by
      intro x hx
      refine ⟨List.rel_of_pairwise_cons hc hx, ?_⟩
      have := (h x (by simp [hx])).2
      simp only [List.length_append] at this
      omega
    obtain ⟨segs, htokens, hspans⟩ := ih hc.of_cons hlater
    refine ⟨us.map token ++ entity s.label vs :: segs, ?_, ?_⟩
    · simp [tokensOf_map_token, tokens, htokens]
    · have hn : n + us.length = s.start := by omega
      have hm : s.start + vs.length = s.stop := by omega
      rw [spansFrom_append, spansFrom_map_token, tokensOf_map_token, hn]
      simp [spansFrom, hm, hspans]

/-! ### Properties of all tokens and labels -/

/-- Every token of the segment and its label, if it is an entity, have these properties. -/
def All (onToken : Text → Prop) (onLabel : Option Text → Prop) : Segment → Prop
  | token t => onToken t
  | entity label ts => onLabel label ∧ ∀ t ∈ ts, onToken t

lemma forall_all_iff {onToken : Text → Prop} {onLabel : Option Text → Prop} (n : Nat)
    (segs : List Segment) :
    (∀ seg ∈ segs, seg.All onToken onLabel) ↔
      (∀ t ∈ tokensOf segs, onToken t) ∧ ∀ s ∈ spansFrom n segs, onLabel s.label := by
  induction segs generalizing n with
  | nil => simp [spansFrom]
  | cons seg segs ih =>
    cases seg with
    | token t =>
      rw [List.forall_mem_cons, ih (n + 1), ← and_assoc, tokensOf_cons, List.forall_mem_append]
      simp [All, tokens, spansFrom]
    | entity label ts =>
      rw [List.forall_mem_cons, ih (n + ts.length), tokensOf_cons, List.forall_mem_append]
      simp only [All, tokens, spansFrom, List.forall_mem_cons]
      tauto

lemma forall_mem_wordsOf_iff {p : Text → Prop} (hclosing : p Marker.closing)
    (segs : List Segment) :
    (∀ w ∈ wordsOf segs, p w) ↔
      ∀ seg ∈ segs, seg.All p fun label => p (Marker.opening label) := by
  simp only [wordsOf, List.mem_flatMap, forall_exists_index, and_imp]
  constructor
  · intro h seg hseg
    cases seg with
    | token t => exact h t _ hseg (by simp [words])
    | entity label ts =>
      exact ⟨h _ _ hseg (by simp [words]), fun t ht => h t _ hseg (by simp [words, ht])⟩
  · intro h w seg hseg hw
    have hall := h seg hseg
    cases seg with
    | token t =>
      obtain rfl : w = t := by simpa [words] using hw
      exact hall
    | entity label ts =>
      simp only [words, List.mem_append, List.mem_cons, List.not_mem_nil, or_false] at hw
      rcases hw with (rfl | hw) | rfl
      · exact hall.1
      · exact hall.2 w hw
      · exact hclosing

end Segment

end TaggedCorpus
