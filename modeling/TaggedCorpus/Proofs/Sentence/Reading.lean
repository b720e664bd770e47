import TaggedCorpus.Proofs.Result
import TaggedCorpus.Proofs.Sentence.Segment
import TaggedCorpus.Sentence.Decoder

/-!
The decoder reads segments.

As long as it has not failed, the words it has taken are whole segments, followed by the
beginning of an entity if one is open; its tokens and spans are theirs. So the words of a line
make a sentence exactly if they are the words of readable segments whose spans are all
different, and the sentence is theirs.
-/

namespace TaggedCorpus

/-- The word stands for itself, as a token. -/
def IsPlain (word : Text) : Prop := Role.ofWord word = .ok .plain

/-- The tokens are plain, and the label of an entity can be one. -/
def Segment.Readable : Segment → Prop :=
  Segment.All IsPlain fun label => ∀ l ∈ label, isLabel l = true

instance (word : Text) : Decidable (IsPlain word) :=
  inferInstanceAs (Decidable (Role.ofWord word = .ok .plain))

instance : (seg : Segment) → Decidable seg.Readable
  | .token t => inferInstanceAs (Decidable (IsPlain t))
  | .entity label ts =>
    inferInstanceAs (Decidable ((∀ l ∈ label, isLabel l = true) ∧ ∀ t ∈ ts, IsPlain t))

namespace Decoder

variable {d e : Decoder} {w : Text}

@[simp] lemma tokens_pushToken : (d.pushToken w).tokens = d.tokens ++ [w] := rfl
@[simp] lemma spans_pushToken : (d.pushToken w).spans = d.spans := rfl
@[simp] lemma opened_pushToken : (d.pushToken w).opened = d.opened := rfl

@[simp] lemma tokens_openEntity (label : Option Text) :
    (d.openEntity label).tokens = d.tokens := rfl
@[simp] lemma spans_openEntity (label : Option Text) : (d.openEntity label).spans = d.spans := rfl
@[simp] lemma opened_openEntity (label : Option Text) :
    (d.openEntity label).opened = some ⟨d.tokens.length, label⟩ := rfl

@[simp] lemma tokens_closeEntity {o : Opening} (h : o ∈ d.opened) :
    (d.closeEntity o h).tokens = d.tokens := rfl
@[simp] lemma spans_closeEntity {o : Opening} (h : o ∈ d.opened) :
    (d.closeEntity o h).spans =
      d.spans ++ [⟨o.token, d.tokens.length, o.label, d.opened_le o h⟩] := rfl
@[simp] lemma opened_closeEntity {o : Opening} (h : o ∈ d.opened) :
    (d.closeEntity o h).opened = none := rfl

/-! ### One step -/

lemma step_of_plain (h : IsPlain w) : d.step w = .ok (d.pushToken w) := by
  rw [IsPlain] at h
  simp only [step, h]

lemma step_of_opening {label : Option Text} (h : Role.ofWord w = .ok (.opening label))
    (ho : d.opened = none) : d.step w = .ok (d.openEntity label) := by
  simp [step, h, ho]

lemma step_of_closing {o : Opening} (h : Role.ofWord w = .ok .closing) (ho : o ∈ d.opened) :
    d.step w = .ok (d.closeEntity o ho) := by
  simp only [step, h]
  split
  · rename_i hn
    simp [hn] at ho
  · rename_i o' ho'
    obtain rfl : o' = o := by simpa [ho'] using ho
    rfl

lemma step_of_unmatched (h : Role.ofWord w = .ok .closing) (ho : d.opened = none) :
    d.step w = .error (.unmatchedClosing d.tokens.length) := by
  simp only [step, h]
  split
  · rfl
  · rename_i o hsome
    simp [ho] at hsome

lemma step_cases (h : d.step w = .ok e) :
    (IsPlain w ∧ e = d.pushToken w) ∨
    (∃ label, Role.ofWord w = .ok (.opening label) ∧ d.opened = none ∧ e = d.openEntity label) ∨
    (Role.ofWord w = .ok .closing ∧ ∃ o, ∃ ho : o ∈ d.opened, e = d.closeEntity o ho) := by
  unfold step at h
  split at h
  · simp at h
  · rename_i hw
    exact Or.inl ⟨hw, by simpa using h.symm⟩
  · rename_i label hw
    by_cases ho : d.opened.isSome = true
    · simp [ho] at h
    · rw [if_neg ho] at h
      exact Or.inr (Or.inl ⟨label, hw, by simpa using ho, by simpa using h.symm⟩)
  · rename_i hw
    split at h
    · simp at h
    · rename_i o ho
      exact Or.inr (Or.inr ⟨hw, o, by simp [ho], by simpa using h.symm⟩)

lemma run_cons_eq_ok {ws : List Text} (h : d.run (w :: ws) = .ok e) :
    ∃ d', d.step w = .ok d' ∧ d'.run ws = .ok e := by
  rw [run_cons] at h
  exact Except.bind_eq_ok_iff.mp h

lemma finish_eq_ok_iff {s : Sentence} :
    d.finish = .ok s ↔ d.opened = none ∧ s.tokens = d.tokens ∧ s.spans = d.spans := by
  unfold finish
  cases d.opened with
  | some o => simp
  | none => simp [Except.mapError_eq_ok_iff, Sentence.of?_eq_ok_iff]

/-! ### Soundness -/

/-- What a decoder has read: segments, and the beginning of an entity if one is open. -/
inductive HasRead (d : Decoder) (ws : List Text) : Prop
  | outside (segs : List Segment) (readable : ∀ seg ∈ segs, seg.Readable)
      (opened : d.opened = none) (tokens : d.tokens = Segment.tokensOf segs)
      (spans : d.spans = Segment.spansFrom 0 segs) (words : ws = Segment.wordsOf segs)
  | inside (segs : List Segment) (label : Option Text) (ts : List Text)
      (readable : ∀ seg ∈ segs, seg.Readable) (onLabel : ∀ l ∈ label, isLabel l = true)
      (plain : ∀ t ∈ ts, IsPlain t)
      (opened : d.opened = some ⟨(Segment.tokensOf segs).length, label⟩)
      (tokens : d.tokens = Segment.tokensOf segs ++ ts)
      (spans : d.spans = Segment.spansFrom 0 segs)
      (words : ws = Segment.wordsOf segs ++ Marker.opening label :: ts)

lemma hasRead_nil (tokens : d.tokens = []) (spans : d.spans = []) (opened : d.opened = none) :
    HasRead d [] := .outside [] (by simp) opened tokens spans rfl

lemma hasRead_step {ws : List Text} (hd : HasRead d ws) (h : d.step w = .ok e) :
    HasRead e (ws ++ [w]) := by
  cases hd with
  | outside segs readable opened tokens spans words =>
    rcases step_cases h with ⟨hw, rfl⟩ | ⟨label, hw, -, rfl⟩ | ⟨-, o, ho, rfl⟩
    · refine .outside (segs ++ [.token w]) ?_ opened ?_ ?_ ?_
      · simp only [List.forall_mem_append, List.forall_mem_singleton]
        exact ⟨readable, hw⟩
      · simp [tokens, Segment.tokens]
      · simp [spans, Segment.spansFrom_append, Segment.spansFrom]
      · simp [words, Segment.words]
    · obtain ⟨rfl, hlabel⟩ := (Role.ofWord_eq_opening_iff w label).mp hw
      refine .inside segs label [] readable hlabel (by simp) ?_ ?_ spans ?_
      · simp [tokens]
      · simp [tokens]
      · rw [words]
    · simp [opened] at ho
  | inside segs label ts readable onLabel plain opened tokens spans words =>
    rcases step_cases h with ⟨hw, rfl⟩ | ⟨label', hw, ho, rfl⟩ | ⟨hw, o, ho, rfl⟩
    · refine .inside segs label (ts ++ [w]) readable onLabel ?_ opened ?_ spans ?_
      · simp only [List.forall_mem_append, List.forall_mem_singleton]
        exact ⟨plain, hw⟩
      · simp [tokens]
      · simp [words]
    · simp [opened] at ho
    · obtain rfl := (Role.ofWord_eq_closing_iff w).mp hw
      obtain rfl : ⟨(Segment.tokensOf segs).length, label⟩ = o := by simpa [opened] using ho
      refine .outside (segs ++ [.entity label ts]) ?_ rfl ?_ ?_ ?_
      · simp only [List.forall_mem_append, List.forall_mem_singleton]
        exact ⟨readable, onLabel, plain⟩
      · simp [tokens, Segment.tokens]
      · simp [spans, tokens, Segment.spansFrom_append, Segment.spansFrom]
      · simp [words, Segment.words]

lemma hasRead_run {us ws : List Text} (hd : HasRead d us) (h : d.run ws = .ok e) :
    HasRead e (us ++ ws) := by
  induction ws generalizing d us with
  | nil =>
    cases h
    simpa using hd
  | cons w ws ih =>
    obtain ⟨d', hstep, hrun⟩ := run_cons_eq_ok h
    simpa using ih (hasRead_step hd hstep) hrun

/-! ### Completeness -/

lemma run_of_plain {ts : List Text} (h : ∀ t ∈ ts, IsPlain t) (d : Decoder) :
    ∃ e, d.run ts = .ok e ∧ e.tokens = d.tokens ++ ts ∧ e.spans = d.spans ∧
      e.opened = d.opened := by
  induction ts generalizing d with
  | nil => exact ⟨d, rfl, by simp, rfl, rfl⟩
  | cons t ts ih =>
    obtain ⟨e, hrun, htokens, hspans, hopened⟩ :=
      ih (fun u hu => h u (by simp [hu])) (d.pushToken t)
    refine ⟨e, ?_, by simp [htokens], hspans, hopened⟩
    rw [run_cons, step_of_plain (h t (by simp))]
    exact hrun

lemma run_segment {seg : Segment} (h : seg.Readable) (hd : d.opened = none) :
    ∃ e, d.run seg.words = .ok e ∧ e.tokens = d.tokens ++ seg.tokens ∧
      e.spans = d.spans ++ Segment.spansFrom d.tokens.length [seg] ∧ e.opened = none := by
  cases seg with
  | token t =>
    have hplain : ∀ u ∈ [t], IsPlain u := List.forall_mem_singleton.mpr h
    obtain ⟨e, hrun, htokens, hspans, hopened⟩ := run_of_plain hplain d
    exact ⟨e, hrun, htokens, by simp [hspans, Segment.spansFrom], hopened.trans hd⟩
  | entity label ts =>
    obtain ⟨hlabel, hplain⟩ := h
    obtain ⟨e, hrun, htokens, hspans, hopened⟩ := run_of_plain hplain (d.openEntity label)
    have ho : ⟨d.tokens.length, label⟩ ∈ e.opened := by simp [hopened]
    refine ⟨e.closeEntity _ ho, ?_, by simp [htokens, Segment.tokens], ?_, rfl⟩
    · have hopen := step_of_opening (Role.ofWord_opening hlabel) hd
      have hclose := step_of_closing Role.ofWord_closing ho
      rw [Segment.words, List.cons_append, run_cons, hopen]
      change (d.openEntity label).run (ts ++ [Marker.closing]) = _
      rw [run_append, hrun]
      change e.run [Marker.closing] = _
      rw [run_cons, hclose]
      rfl
    · simp [hspans, htokens, Segment.spansFrom]

lemma run_segments {segs : List Segment} (h : ∀ seg ∈ segs, seg.Readable)
    (hd : d.opened = none) :
    ∃ e, d.run (Segment.wordsOf segs) = .ok e ∧ e.tokens = d.tokens ++ Segment.tokensOf segs ∧
      e.spans = d.spans ++ Segment.spansFrom d.tokens.length segs ∧ e.opened = none := by
  induction segs generalizing d with
  | nil => exact ⟨d, rfl, by simp, by simp [Segment.spansFrom], hd⟩
  | cons seg segs ih =>
    obtain ⟨d', hrun, htokens, hspans, hopened⟩ := run_segment (h seg (by simp)) hd
    obtain ⟨e, hrun', htokens', hspans', hopened'⟩ :=
      ih (fun x hx => h x (by simp [hx])) hopened
    refine ⟨e, ?_, by simp [htokens, htokens'], ?_, hopened'⟩
    · rw [Segment.wordsOf_cons, run_append, hrun]
      exact hrun'
    · have := Segment.spansFrom_append d.tokens.length [seg] segs
      rw [hspans', hspans, htokens]
      simp only [List.singleton_append, Segment.tokensOf_cons, Segment.tokensOf_nil,
        List.append_nil] at this
      rw [this]
      simp

end Decoder

/-- **Completeness**: the words of readable segments make the sentence of the segments, unless
something is wrong with it. -/
theorem decodeWords_wordsOf {segs : List Segment} (h : ∀ seg ∈ segs, seg.Readable) :
    decodeWords (Segment.wordsOf segs) =
      (Sentence.of? (Segment.tokensOf segs) (Segment.spansFrom 0 segs)).mapError .sentence := by
  obtain ⟨e, hrun, htokens, hspans, hopened⟩ := Decoder.run_segments (d := {}) h rfl
  rw [decodeWords, hrun]
  change e.finish = _
  simp only [Decoder.finish, hopened, htokens, hspans]
  rfl

/-- **Soundness**: the words of a sentence are those of readable segments, and the sentence is
theirs. -/
theorem exists_segments_of_decodeWords {ws : List Text} {s : Sentence}
    (h : decodeWords ws = .ok s) :
    ∃ segs : List Segment, (∀ seg ∈ segs, seg.Readable) ∧ Segment.wordsOf segs = ws ∧
      Segment.tokensOf segs = s.tokens ∧ Segment.spansFrom 0 segs = s.spans := by
  rw [decodeWords, Except.bind_eq_ok_iff] at h
  obtain ⟨e, hrun, hfinish⟩ := h
  cases Decoder.hasRead_run (Decoder.hasRead_nil rfl rfl rfl) hrun with
  | inside segs label ts readable onLabel plain opened tokens spans words =>
    rw [Decoder.finish_eq_ok_iff, opened] at hfinish
    cases hfinish.1
  | outside segs readable opened tokens spans words =>
    obtain ⟨-, htokens, hspans⟩ := Decoder.finish_eq_ok_iff.mp hfinish
    exact ⟨segs, readable, words.symm, (htokens.trans tokens).symm, (hspans.trans spans).symm⟩

/-- Words make a sentence exactly if they are those of readable segments that make it. -/
theorem decodeWords_eq_ok_iff (ws : List Text) (s : Sentence) :
    decodeWords ws = .ok s ↔
      ∃ segs : List Segment, (∀ seg ∈ segs, seg.Readable) ∧ Segment.wordsOf segs = ws ∧
        Segment.tokensOf segs = s.tokens ∧ Segment.spansFrom 0 segs = s.spans := by
  constructor
  · exact exists_segments_of_decodeWords
  · rintro ⟨segs, hreadable, rfl, htokens, hspans⟩
    have hs : Sentence.of? s.tokens s.spans = .ok s :=
      (Sentence.of?_eq_ok_iff _ _ s).mpr ⟨rfl, rfl⟩
    rw [decodeWords_wordsOf hreadable, htokens, hspans, hs]
    rfl

lemma decodeLine_eq_ok_iff (line : Text) (s : Sentence) :
    decodeLine line = .ok s ↔ decodeWords line.words = .ok s := by
  rw [decodeLine, Except.mapError_eq_ok_iff]

/-! ### The sentence of segments -/

lemma Segment.fits_of_mem_spansFrom {segs : List Segment} (h : ∀ seg ∈ segs, seg.Readable)
    {s : Span} (hs : s ∈ spansFrom 0 segs) : Sentence.Fits (tokensOf segs).length s := by
  refine ⟨?_, ((forall_all_iff 0 segs).mp h).2 s hs⟩
  have := stop_of_mem_spansFrom hs
  omega

lemma Segment.fault?_eq_ite {segs : List Segment} (h : ∀ seg ∈ segs, seg.Readable) :
    Sentence.fault? (tokensOf segs).length (spansFrom 0 segs) =
      if (spansFrom 0 segs).Nodup then none else some .duplicate :=
  Sentence.fault?_of_chained (fun _ hs => fits_of_mem_spansFrom h hs) (chained_spansFrom 0 segs)

lemma Segment.fault?_eq_none {segs : List Segment} (h : ∀ seg ∈ segs, seg.Readable)
    (hnodup : (spansFrom 0 segs).Nodup) :
    Sentence.fault? (tokensOf segs).length (spansFrom 0 segs) = none := by
  rw [fault?_eq_ite h, if_pos hnodup]

lemma Segment.fault?_eq_duplicate {segs : List Segment} (h : ∀ seg ∈ segs, seg.Readable)
    (hnodup : ¬ (spansFrom 0 segs).Nodup) :
    Sentence.fault? (tokensOf segs).length (spansFrom 0 segs) = some .duplicate := by
  rw [fault?_eq_ite h, if_neg hnodup]

/-- The sentence that readable segments make if their spans are all different. -/
def Segment.sentence (segs : List Segment) (h : ∀ seg ∈ segs, seg.Readable)
    (hnodup : (spansFrom 0 segs).Nodup) : Sentence where
  tokens := tokensOf segs
  spans := spansFrom 0 segs
  sound := fault?_eq_none h hnodup

lemma decodeWords_eq_sentence (segs : List Segment) (h : ∀ seg ∈ segs, seg.Readable)
    (hnodup : (Segment.spansFrom 0 segs).Nodup) :
    decodeWords (Segment.wordsOf segs) = .ok (Segment.sentence segs h hnodup) :=
  (decodeWords_eq_ok_iff _ _).mpr ⟨segs, h, rfl, rfl, rfl⟩

lemma decodeLine_eq_sentence (line : Text) (segs : List Segment)
    (h : ∀ seg ∈ segs, seg.Readable) (hnodup : (Segment.spansFrom 0 segs).Nodup)
    (hwords : Segment.wordsOf segs = line.words) :
    decodeLine line = .ok (Segment.sentence segs h hnodup) := by
  rw [decodeLine_eq_ok_iff, ← hwords, decodeWords_eq_sentence segs h hnodup]

end TaggedCorpus
