import TaggedCorpus.Proofs.TokenOrder

/-!
What a request to project is answered with.

Three things can be wrong with a request: the bounds of a sentence, the bounds of a token, and a
sentence that reaches past the end of the text. They are looked for in this order, and the first
that is found is reported. If there is none, each sentence is answered with the tokens within it.
A token that reaches past the end of the text is within no sentence, so the text of each token that
is answered can be read off its sentence.
-/

namespace TaggedCorpus.Service

/-! ### Intervals -/

namespace Interval

/-- The interval does not start before the text and does not run backwards. -/
def IsOrdered (i : Interval) : Prop := 0 ≤ i.start ∧ i.start ≤ i.stop

/-- The span that an ordered interval bounds. -/
def toSpan (i : Interval) : Span := .ofBounds (i.start.toNat, i.stop.toNat)

/-- What is wrong with the bounds of the interval, as it is reported. -/
def misorder? (i : Interval) : Option String :=
  if i.start < 0 then some s!"Invalid span [{i.start}, {i.stop}): negative start"
  else if i.stop < i.start then some s!"Invalid span [{i.start}, {i.stop})"
  else none

/-- What is wrong with an interval that reaches past the end of a text of this length. -/
def excess? (length : Nat) (i : Interval) : Option String :=
  if length < i.stop then
    some ("Span " ++ s!"[{i.start}..{i.stop})" ++ s!" exceeds text of length {length}")
  else none

variable {i : Interval}

lemma misorder?_eq_none_iff : i.misorder? = none ↔ i.IsOrdered := by
  unfold misorder? IsOrdered
  split
  · simp only [reduceCtorEq, false_iff]
    omega
  · split
    · simp only [reduceCtorEq, false_iff]
      omega
    · simp only [true_iff]
      omega

lemma excess?_eq_none_iff {length : Nat} : i.excess? length = none ↔ i.stop ≤ length := by
  unfold excess?
  split
  · simp only [reduceCtorEq, false_iff]
    omega
  · simp only [true_iff]
    omega

lemma IsOrdered.toSpan_bounds (h : i.IsOrdered) :
    (i.toSpan.start : Int) = i.start ∧ (i.toSpan.stop : Int) = i.stop := by
  obtain ⟨hstart, hstop⟩ := h
  simp only [toSpan, Span.ofBounds]
  omega

lemma of?_eq_ok_iff_toSpan {s : Span} :
    Span.of? i.start i.stop none = .ok s ↔ i.IsOrdered ∧ i.toSpan = s := by
  rw [Span.of?_eq_ok_iff]
  constructor
  · rintro ⟨hstart, hstop, hlabel⟩
    have hle := s.start_le_stop
    have hordered : i.IsOrdered := by
      unfold IsOrdered
      omega
    obtain ⟨hstart', hstop'⟩ := hordered.toSpan_bounds
    refine ⟨hordered, ?_⟩
    ext
    · omega
    · omega
    · rw [hlabel]
      rfl
  · rintro ⟨hordered, rfl⟩
    obtain ⟨hstart, hstop⟩ := hordered.toSpan_bounds
    exact ⟨hstart, hstop, rfl⟩

lemma misorder?_eq_report? (i : Interval) :
    i.misorder? = Except.report? SpanFault.message (Span.of? i.start i.stop none) := by
  unfold misorder? Span.of?
  split
  · rfl
  · split <;> rfl

lemma IsOrdered.excess?_eq_report? (h : i.IsOrdered) (text : Text) (tokens : List Span) :
    i.excess? text.length =
      Except.report? ProjectionFault.message (projectSentence text i.toSpan tokens) := by
  obtain ⟨hstart, hstop⟩ := h.toSpan_bounds
  unfold excess?
  rw [← hstart, ← hstop]
  split
  · rw [projectSentence_eq_error (by omega)]
    rfl
  · have hwithin : i.toSpan.stop ≤ text.length := by omega
    obtain ⟨t, ht⟩ := exists_projectSentence hwithin tokens
    rw [ht]
    rfl

end Interval

lemma spansOf_eq_ok_iff {intervals : List Interval} {spans : List Span} :
    spansOf intervals = .ok spans ↔
      (∀ i ∈ intervals, i.IsOrdered) ∧ intervals.map Interval.toSpan = spans := by
  unfold spansOf
  simp only [Except.mapM_eq_ok_iff, Except.mapError_eq_ok_iff, Interval.of?_eq_ok_iff_toSpan,
    List.forall₂_and_left]
  rw [← List.forall₂_eq_eq_eq, List.forall₂_map_left_iff]

/-! ### Violations -/

/-- All that is wrong with a request, in the order in which it is looked for. -/
def ProjectRequest.violations (q : ProjectRequest) : List String :=
  q.sentences.filterMap Interval.misorder? ++ (q.tokens.filterMap Interval.misorder? ++
    q.sentences.filterMap (Interval.excess? q.text.length))

lemma head?_misorders (intervals : List Interval) :
    (intervals.filterMap Interval.misorder?).head? =
      Except.report? ProjectFault.message (spansOf intervals) := by
  rw [spansOf, ← Except.head?_filterMap_report?]
  refine congrArg List.head? (List.filterMap_congr fun i _ => ?_)
  rw [Interval.misorder?_eq_report?]
  cases Span.of? i.start i.stop none <;> rfl

lemma head?_excesses {sentences : List Interval} (h : ∀ i ∈ sentences, i.IsOrdered) (text : Text)
    (tokens : List Span) :
    (sentences.filterMap (Interval.excess? text.length)).head? =
      Except.report? ProjectionFault.message
        (projectDocument text (sentences.map Interval.toSpan) tokens) := by
  rw [projectDocument, List.mapM_map, ← Except.head?_filterMap_report?]
  refine congrArg List.head? (List.filterMap_congr fun i hi => ?_)
  exact (h i hi).excess?_eq_report? text tokens

lemma head?_violations (q : ProjectRequest) :
    q.violations.head? = Except.report? ProjectFault.message (projected q) := by
  rw [ProjectRequest.violations, List.head?_append, List.head?_append, head?_misorders,
    head?_misorders, projected_eq]
  cases hsentences : spansOf q.sentences with
  | error f => rfl
  | ok sentences =>
    obtain ⟨hordered, rfl⟩ := spansOf_eq_ok_iff.mp hsentences
    cases spansOf q.tokens with
    | error f => rfl
    | ok tokens =>
      rw [head?_excesses hordered q.text tokens]
      simp only [Except.bind]
      cases projectDocument q.text (q.sentences.map Interval.toSpan) tokens <;> rfl

lemma violations_eq_nil_iff (q : ProjectRequest) :
    q.violations = [] ↔ (∀ i ∈ q.sentences ++ q.tokens, 0 ≤ i.start ∧ i.start ≤ i.stop) ∧
      ∀ i ∈ q.sentences, i.stop ≤ q.text.length := by
  simp only [ProjectRequest.violations, List.append_eq_nil_iff, List.filterMap_eq_nil_iff,
    Interval.misorder?_eq_none_iff, Interval.excess?_eq_none_iff, List.forall_mem_append, and_assoc]
  rfl

/-! ### Records -/

/-- The tokens of a request that are contained in one of its sentences. -/
def ProjectRequest.tokensIn (q : ProjectRequest) (i : Interval) : List Interval :=
  q.tokens.filter fun j => i.start ≤ j.start && j.stop ≤ i.stop

/-- The record that a sentence of a request is answered with. -/
structure SentenceRecord.Answers (q : ProjectRequest) (i : Interval) (r : SentenceRecord) :
    Prop where
  text : r.text = q.text.slice i.start.toNat i.stop.toNat
  built : i.toSpan.buildTokens (q.tokens.map Interval.toSpan) = .ok r.spans
  projection : i.toSpan.IsProjection (q.tokens.map Interval.toSpan) r.spans
  tokens : r.tokens =
    r.spans.map fun s => q.text.slice (i.start.toNat + s.start) (i.start.toNat + s.stop)
  offsets : r.tokens.Perm
    ((q.tokensIn i).map fun j => q.text.slice j.start.toNat j.stop.toNat)

section Answers

variable {q : ProjectRequest} {i : Interval} {t : TokenizedText}

lemma map_tokensIn (hi : i.IsOrdered) (htokens : ∀ j ∈ q.tokens, j.IsOrdered) :
    (((q.tokens.map Interval.toSpan).filter fun s =>
        i.toSpan.start ≤ s.start && s.stop ≤ i.toSpan.stop).map fun s => (s.start, s.stop)) =
      (q.tokensIn i).map fun j => (j.start.toNat, j.stop.toNat) := by
  obtain ⟨hstart, hstop⟩ := hi.toSpan_bounds
  have hfilter : (q.tokens.filter ((fun s : Span =>
      decide (i.toSpan.start ≤ s.start) && decide (s.stop ≤ i.toSpan.stop)) ∘ Interval.toSpan)) =
        q.tokensIn i := by
    refine List.filter_congr fun j hj => ?_
    obtain ⟨hstart', hstop'⟩ := (htokens j hj).toSpan_bounds
    rw [Bool.eq_iff_iff]
    simp only [Function.comp_apply, Bool.and_eq_true, decide_eq_true_eq]
    omega
  rw [List.filter_map, hfilter, List.map_map]
  refine List.map_congr_left fun j hj => ?_
  obtain ⟨hstart', hstop'⟩ := (htokens j (List.mem_filter.mp hj).1).toSpan_bounds
  simp only [Function.comp_apply, Prod.mk.injEq]
  omega

open List in
lemma answers_of_projectSentence (hi : i.IsOrdered) (htokens : ∀ j ∈ q.tokens, j.IsOrdered)
    (h : projectSentence q.text i.toSpan (q.tokens.map Interval.toSpan) = .ok t) :
    SentenceRecord.Answers q i ⟨t.text, t.spans, t.tokens⟩ := by
  obtain ⟨hstart, hstop⟩ := hi.toSpan_bounds
  obtain ⟨-, htext, hspans⟩ := projectSentence_eq_ok_iff.mp h
  have hprojection := Span.isProjection_projectTokens i.toSpan (q.tokens.map Interval.toSpan)
  rw [← hspans] at hprojection
  have htexts := tokens_of_projectSentence h
  refine ⟨?_, ?_, hprojection, htexts, ?_⟩
  · have hstop' : i.toSpan.stop = i.stop.toNat := by omega
    rw [← hstop']
    exact htext
  · rw [hspans]
    exact Span.buildTokens_eq_ok i.toSpan _
  · let cut (bounds : Nat × Nat) : Text := q.text.slice bounds.1 bounds.2
    calc t.tokens
        = (t.spans.map fun s => (i.toSpan.start + s.start, i.toSpan.start + s.stop)).map cut := by
          rw [htexts, List.map_map]
          rfl
      _ ~ ((q.tokensIn i).map fun j => (j.start.toNat, j.stop.toNat)).map cut := by
          rw [← map_tokensIn hi htokens]
          exact hprojection.bounds.map cut
      _ = (q.tokensIn i).map fun j => q.text.slice j.start.toNat j.stop.toNat := by
          rw [List.map_map]
          rfl

end Answers

lemma SentenceRecord.ofText_eq_ok (t : TokenizedText) :
    SentenceRecord.ofText t = .ok ⟨t.text, t.spans, t.tokens⟩ :=
  Except.map_eq_ok_iff.mpr
    ⟨t.tokens, Except.mapM_eq_ok_map fun _ hs => TokenizedText.coveredText_of_mem hs, rfl⟩

/-! ### Replies -/

/-- What a reply says about a request: it has a record for each sentence, or it reports the first
violation. -/
def ProjectReply (q : ProjectRequest) : Reply (List SentenceRecord) ProjectFault → Prop
  | .answered records => List.Forall₂ (SentenceRecord.Answers q) q.sentences records
  | .unprocessable f => q.violations.head? = some f.message

lemma forall₂_of_projected {q : ProjectRequest} {texts : List TokenizedText}
    (h : projected q = .ok texts) :
    List.Forall₂ (fun i t => SentenceRecord.Answers q i ⟨t.text, t.spans, t.tokens⟩) q.sentences
      texts := by
  simp only [projected_eq, Except.bind_eq_ok_iff, Except.mapError_eq_ok_iff,
    spansOf_eq_ok_iff] at h
  obtain ⟨_, ⟨hsentences, rfl⟩, _, ⟨htokens, rfl⟩, hdocument⟩ := h
  rw [projectDocument, Except.mapM_eq_ok_iff, List.forall₂_map_left_iff] at hdocument
  have hboth := (List.forall₂_and_left q.sentences texts).mpr ⟨hsentences, hdocument⟩
  exact hboth.imp fun i t hit => answers_of_projectSentence hit.1 htokens hit.2

lemma exists_projectRecords (q : ProjectRequest) :
    ∃ reply, projectRecords q = .ok reply ∧ ProjectReply q reply ∧
      (reply.status = 200 ↔ q.violations = []) ∧ (reply.status = 422 ↔ q.violations ≠ []) := by
  have hhead := head?_violations q
  cases h : projected q with
  | ok texts =>
    have hnil : q.violations = [] := by
      rw [h] at hhead
      exact List.head?_eq_none_iff.mp hhead
    refine ⟨.answered (texts.map fun t => ⟨t.text, t.spans, t.tokens⟩), ?_, ?_, ?_, ?_⟩
    · rw [projectRecords, project, h]
      simp only
      rw [Except.mapM_eq_ok_map fun t _ => SentenceRecord.ofText_eq_ok t]
      rfl
    · rw [ProjectReply, List.forall₂_map_right_iff]
      exact forall₂_of_projected h
    · simp [Reply.status, hnil]
    · simp [Reply.status, hnil]
  | error f =>
    rw [h] at hhead
    have hne : q.violations ≠ [] := by
      intro hnil
      rw [hnil] at hhead
      cases hhead
    refine ⟨.unprocessable f, ?_, hhead, ?_, ?_⟩
    · rw [projectRecords, project, h]
    · simp [Reply.status, hne]
    · simp [Reply.status, hne]

/-- **What a request to project is answered with.** There is always a reply. If each interval of the
request is ordered and each sentence ends within the text, it has one record for each sentence in
order, whose tokens have the texts that stand in the text of the request where the tokens contained
in the sentence do. Otherwise it reports the first violation, where those of sentence intervals come
before those of token intervals, and both before sentences that reach past the end of the text. -/
theorem exists_project_reply (q : ProjectRequest) :
    ∃ reply, projectRecords q = .ok reply ∧ ProjectReply q reply ∧
      (reply.status = 200 ↔ (∀ i ∈ q.sentences ++ q.tokens, 0 ≤ i.start ∧ i.start ≤ i.stop) ∧
        ∀ i ∈ q.sentences, i.stop ≤ q.text.length) ∧
      (reply.status = 422 ↔ q.violations ≠ []) := by
  obtain ⟨reply, hreply, hrequest, hanswered, hreported⟩ := exists_projectRecords q
  rw [violations_eq_nil_iff] at hanswered
  exact ⟨reply, hreply, hrequest, hanswered, hreported⟩

end TaggedCorpus.Service
