import TaggedCorpus.Proofs.Sentence.Rejection
import TaggedCorpus.Proofs.Span.Bounds

/-!
The loop of the decoder, on a stack of open entities.

A `Decoder` has no two entities open, and no span of it runs backwards, because its type says so.
The loop here takes nothing for granted. It keeps a stack of open entities, and it makes each span
from two bounds, which can fail. That this does not happen follows from what each step keeps: the
spans form a chain, the chain ends before the open entity starts, and that entity starts within the
tokens. So both loops do the same, and nothing but repeated spans can be wrong at the end.
-/

namespace TaggedCorpus

/-- What is known of a line after some of its words: the tokens, the entities that are closed, and
those that are not, the one that was opened last on top. -/
structure StackDecoder where
  tokens : List Text := []
  spans : List Span := []
  stack : List Opening := []

/-- What is wrong with a line whose parts make no sample, told in the words of that fault. -/
def Reason.ofSample : SampleFault → Reason
  | .burdenedControl => .reported SampleFault.burdenedControl.message
  | .sentence fault => .sentence fault

lemma Reason.message_ofSample (fault : SampleFault) :
    (Reason.ofSample fault).message = fault.message := by
  cases fault <;> rfl

namespace StackDecoder

/-- Why the words make no sample: the line is malformed, or two bounds make no span. Only the first
is reported with the line. -/
inductive Fault
  | line (reason : Reason)
  | span (fault : SpanFault)

/-- Makes a span of the entity on top of the stack. -/
def close (d : StackDecoder) (o : Opening) (below : List Opening) : Except Fault StackDecoder :=
  match Span.of? o.token d.tokens.length o.label with
  | .error fault => .error (.span fault)
  | .ok s => .ok { d with spans := d.spans ++ [s], stack := below }

/-- Takes one more word. -/
def step (d : StackDecoder) (word : Text) : Except Fault StackDecoder :=
  match Role.ofWord word with
  | .error e => .error (.line (.unknownMarker e.word))
  | .ok .plain => .ok { d with tokens := d.tokens ++ [word] }
  | .ok (.opening label) =>
    if d.stack.isEmpty then .ok { d with stack := ⟨d.tokens.length, label⟩ :: d.stack }
    else .error (.line (.nestedOpening word d.tokens.length))
  | .ok .closing =>
    match d.stack with
    | [] => .error (.line (.unmatchedClosing d.tokens.length))
    | o :: below => d.close o below

/-- Takes words in order, up to the first at which the loop stops. -/
def run (d : StackDecoder) (words : List Text) : Except Fault StackDecoder := words.foldlM step d

/-- The sample that the words make, at the end of the line. -/
def finish (d : StackDecoder) : Except Fault Sample :=
  match d.stack with
  | o :: _ => .error (.line (.neverClosed o.token))
  | [] => (Sample.of? d.tokens d.spans false).mapError fun fault => .line (Reason.ofSample fault)

/-- Where the open entity starts, or if none is open, where the next one would. -/
def position (d : StackDecoder) : Nat :=
  match d.stack with
  | o :: _ => o.token
  | [] => d.tokens.length

variable {d e : StackDecoder} {w : Text} {ws : List Text}

lemma run_cons (d : StackDecoder) (w : Text) (ws : List Text) :
    d.run (w :: ws) = (d.step w).bind fun e => e.run ws := rfl

lemma position_of_cons {o : Opening} {below : List Opening} (h : d.stack = o :: below) :
    d.position = o.token := by
  rw [position, h]

lemma position_of_nil (h : d.stack = []) : d.position = d.tokens.length := by
  rw [position, h]

/-! ### One step -/

lemma close_eq_ok_iff {o : Opening} {below : List Opening} :
    d.close o below = .ok e ↔
      ∃ s, Span.of? o.token d.tokens.length o.label = .ok s ∧
        e = { d with spans := d.spans ++ [s], stack := below } := by
  unfold close
  cases Span.of? o.token d.tokens.length o.label <;> simp [eq_comm]

lemma step_cases (h : d.step w = .ok e) :
    (IsPlain w ∧ e = { d with tokens := d.tokens ++ [w] }) ∨
    (∃ label, Role.ofWord w = .ok (.opening label) ∧ d.stack = [] ∧
      e = { d with stack := [⟨d.tokens.length, label⟩] }) ∨
    (Role.ofWord w = .ok .closing ∧ ∃ o below s, d.stack = o :: below ∧
      Span.of? o.token d.tokens.length o.label = .ok s ∧
      e = { d with spans := d.spans ++ [s], stack := below }) := by
  unfold step at h
  split at h
  · cases h
  · rename_i hw
    exact Or.inl ⟨hw, by simpa using h.symm⟩
  · rename_i label hw
    split at h
    · rename_i hempty
      rw [List.isEmpty_iff] at hempty
      rw [hempty] at h
      exact Or.inr (Or.inl ⟨label, hw, hempty, by simpa using h.symm⟩)
    · cases h
  · rename_i hw
    split at h
    · cases h
    · rename_i o below hstack
      obtain ⟨s, hs, rfl⟩ := close_eq_ok_iff.mp h
      exact Or.inr (Or.inr ⟨hw, o, below, s, hstack, hs, rfl⟩)

lemma exists_of_step_eq_span {fault : SpanFault} (h : d.step w = .error (.span fault)) :
    ∃ o below, d.stack = o :: below ∧
      Span.of? o.token d.tokens.length o.label = .error fault := by
  unfold step at h
  split at h
  · cases h
  · cases h
  · split at h <;> cases h
  · split at h
    · cases h
    · rename_i o below hstack
      refine ⟨o, below, hstack, ?_⟩
      unfold close at h
      split at h
      · rename_i fault' hf
        cases h
        exact hf
      · cases h

/-! ### What the loop keeps -/

/-- **The invariant of the loop.** -/
structure Orderly (d : StackDecoder) : Prop where
  single : d.stack.length ≤ 1
  chained : Span.Chained d.spans
  stop_le_position : ∀ s ∈ d.spans, s.stop ≤ d.position
  position_le : d.position ≤ d.tokens.length
  onLabel : ∀ s ∈ d.spans, ∀ l ∈ s.label, isLabel l = true
  onOpenLabel : ∀ o ∈ d.stack, ∀ l ∈ o.label, isLabel l = true

lemma orderly_start : Orderly {} where
  single := by simp
  chained := List.Pairwise.nil
  stop_le_position := by simp
  position_le := by simp [position]
  onLabel := by simp
  onOpenLabel := by simp

lemma Orderly.exists_span (hd : Orderly d) {o : Opening} {below : List Opening}
    (h : d.stack = o :: below) :
    below = [] ∧ ∃ s, Span.of? o.token d.tokens.length o.label = .ok s := by
  have hsingle := hd.single
  rw [h, List.length_cons] at hsingle
  have hle : o.token ≤ d.tokens.length := position_of_cons h ▸ hd.position_le
  refine ⟨List.length_eq_zero_iff.mp (by omega), ⟨o.token, d.tokens.length, o.label, hle⟩, ?_⟩
  exact Span.of?_eq_ok_iff.mpr ⟨rfl, rfl, rfl⟩

lemma Orderly.step_ne_span (hd : Orderly d) (fault : SpanFault) :
    d.step w ≠ .error (.span fault) := by
  intro h
  obtain ⟨o, below, hstack, hfault⟩ := exists_of_step_eq_span h
  obtain ⟨-, s, hs⟩ := hd.exists_span hstack
  rw [hfault] at hs
  cases hs

lemma Orderly.pushToken (hd : Orderly d) (w : Text) :
    Orderly { d with tokens := d.tokens ++ [w] } := by
  have hmoved : d.position ≤ position { d with tokens := d.tokens ++ [w] } ∧
      position { d with tokens := d.tokens ++ [w] } ≤ d.tokens.length + 1 := by
    have hle := hd.position_le
    cases hstack : d.stack with
    | nil =>
      rw [position_of_nil hstack]
      simp [position]
    | cons o below =>
      rw [position_of_cons hstack] at hle ⊢
      exact ⟨Nat.le_refl _, Nat.le_succ_of_le hle⟩
  exact {
    single := hd.single
    chained := hd.chained
    stop_le_position := fun s hs => Nat.le_trans (hd.stop_le_position s hs) hmoved.1
    position_le := by simpa using hmoved.2
    onLabel := hd.onLabel
    onOpenLabel := hd.onOpenLabel }

lemma Orderly.openEntity (hd : Orderly d) (hstack : d.stack = []) {label : Option Text}
    (hlabel : ∀ l ∈ label, isLabel l = true) :
    Orderly { d with stack := [⟨d.tokens.length, label⟩] } where
  single := by simp
  chained := hd.chained
  stop_le_position := position_of_nil hstack ▸ hd.stop_le_position
  position_le := Nat.le_refl _
  onLabel := hd.onLabel
  onOpenLabel := by simpa using hlabel

lemma Orderly.closeEntity (hd : Orderly d) {o : Opening} {below : List Opening} {s : Span}
    (hstack : d.stack = o :: below) (hs : Span.of? o.token d.tokens.length o.label = .ok s) :
    Orderly { d with spans := d.spans ++ [s], stack := below } := by
  obtain ⟨rfl, -⟩ := hd.exists_span hstack
  obtain ⟨hstart, hstop, hlabel⟩ := Span.of?_eq_ok_iff.mp hs
  have hbefore : ∀ t ∈ d.spans, t.stop ≤ s.start := by
    intro t ht
    have hle := hd.stop_le_position t ht
    rw [position_of_cons hstack] at hle
    omega
  have hsle := s.start_le_stop
  refine {
    single := by simp
    chained := ?_
    stop_le_position := ?_
    position_le := Nat.le_refl _
    onLabel := ?_
    onOpenLabel := by simp }
  · refine List.pairwise_append.mpr ⟨hd.chained, List.pairwise_singleton _ _, ?_⟩
    simpa using hbefore
  · simp only [position, List.forall_mem_append, List.forall_mem_singleton]
    refine ⟨fun t ht => ?_, by omega⟩
    have := hbefore t ht
    omega
  · simp only [List.forall_mem_append, List.forall_mem_singleton]
    refine ⟨hd.onLabel, ?_⟩
    rw [hlabel]
    exact hd.onOpenLabel o (by simp [hstack])

lemma Orderly.step (hd : Orderly d) (h : d.step w = .ok e) : Orderly e := by
  rcases step_cases h with ⟨-, rfl⟩ | ⟨label, hw, hstack, rfl⟩ | ⟨-, o, below, s, hstack, hs, rfl⟩
  · exact hd.pushToken w
  · exact hd.openEntity hstack ((Role.ofWord_eq_opening_iff w label).mp hw).2
  · exact hd.closeEntity hstack hs

lemma Orderly.run (hd : Orderly d) (h : d.run ws = .ok e) : Orderly e := by
  induction ws generalizing d with
  | nil =>
    cases h
    exact hd
  | cons w ws ih =>
    rw [run_cons, Except.bind_eq_ok_iff] at h
    obtain ⟨d', hstep, hrun⟩ := h
    exact ih (hd.step hstep) hrun

lemma Orderly.run_ne_span (hd : Orderly d) (fault : SpanFault) :
    d.run ws ≠ .error (.span fault) := by
  induction ws generalizing d with
  | nil => simp [StackDecoder.run, pure, Except.pure]
  | cons w ws ih =>
    rw [run_cons]
    cases hstep : d.step w with
    | ok e => exact ih (hd.step hstep)
    | error f =>
      intro h
      cases h
      exact hd.step_ne_span fault hstep

/-! ### What follows for the spans -/

lemma Orderly.fits (hd : Orderly d) : ∀ s ∈ d.spans, Sentence.Fits d.tokens.length s :=
  fun s hs => ⟨Nat.le_trans (hd.stop_le_position s hs) hd.position_le, hd.onLabel s hs⟩

lemma Orderly.of?_eq_error (hd : Orderly d) {fault : SampleFault}
    (h : Sample.of? d.tokens d.spans false = .error fault) :
    fault = .sentence .duplicate ∧ ¬ d.spans.Nodup := by
  have hcheck := Sentence.fault?_of_chained hd.fits hd.chained
  rw [Sample.of?, if_neg (by simp)] at h
  by_cases hnodup : d.spans.Nodup
  · rw [if_pos hnodup] at hcheck
    rw [Sentence.of?_eq_ok hcheck] at h
    cases h
  · rw [if_neg hnodup] at hcheck
    rw [Sentence.of?_eq_error hcheck] at h
    cases h
    exact ⟨rfl, hnodup⟩

/-! ### Both loops do the same -/

/-- What a decoder knows, with the entity that is open on the stack. -/
def ofDecoder (d : Decoder) : StackDecoder := ⟨d.tokens, d.spans, d.opened.toList⟩

lemma step_ofDecoder (d : Decoder) (w : Text) :
    (ofDecoder d).step w = ((d.step w).map ofDecoder).mapError .line := by
  cases hw : Role.ofWord w with
  | error u =>
    simp only [step, Decoder.step, hw]
    rfl
  | ok role =>
    cases role with
    | plain =>
      rw [Decoder.step_of_plain hw]
      simp only [step, hw]
      rfl
    | opening label =>
      cases ho : d.opened with
      | none =>
        rw [Decoder.step_of_opening hw ho]
        simp only [step, hw, ofDecoder, ho]
        rfl
      | some o =>
        simp only [step, Decoder.step, hw, ofDecoder, ho]
        rfl
    | closing =>
      cases ho : d.opened with
      | none =>
        rw [Decoder.step_of_unmatched hw ho]
        simp only [step, hw, ofDecoder, ho]
        rfl
      | some o =>
        have hopened : o ∈ d.opened := by simp [ho]
        rw [Decoder.step_of_closing hw hopened]
        simp only [step, hw, ofDecoder, ho]
        exact close_eq_ok_iff.mpr ⟨_, Span.of?_eq_ok_iff.mpr ⟨rfl, rfl, rfl⟩, rfl⟩

lemma run_ofDecoder (d : Decoder) (ws : List Text) :
    (ofDecoder d).run ws = ((d.run ws).map ofDecoder).mapError .line := by
  induction ws generalizing d with
  | nil => rfl
  | cons w ws ih =>
    rw [run_cons, Decoder.run_cons, step_ofDecoder]
    cases d.step w with
    | error reason => rfl
    | ok e => exact ih e

lemma finish_ofDecoder (d : Decoder) :
    (ofDecoder d).finish = (d.finish.map Sample.sentence).mapError .line := by
  unfold finish Decoder.finish ofDecoder
  cases d.opened with
  | some o => rfl
  | none =>
    simp only [Option.toList_none, Sample.of?]
    cases Sentence.of? d.tokens d.spans <;> rfl

end StackDecoder

/-- **What the decoder's loop keeps.** Whatever words it has taken, the loop on a stack has done
what the decoder does, and has never failed to make a span. At most one entity is open, and each
span ends before the next one starts, the last one before the open entity, and that one starts
within the tokens. So sorting does not move the spans, no two overlap, and a sample cannot be made
of them only if one of them is repeated, and such a span is empty. -/
theorem stack_loop_invariant (ws : List Text) :
    StackDecoder.run {} ws =
        ((Decoder.start.run ws).map StackDecoder.ofDecoder).mapError .line ∧
      (StackDecoder.run {} ws).bind StackDecoder.finish =
        ((decodeWords ws).map Sample.sentence).mapError .line ∧
      (∀ fault, StackDecoder.run {} ws ≠ .error (.span fault)) ∧
      ∀ d, StackDecoder.run {} ws = .ok d →
        d.stack.length ≤ 1 ∧
        Span.Chained d.spans ∧
        (∀ s ∈ d.spans.getLast?, s.stop ≤ d.position) ∧
        d.position ≤ d.tokens.length ∧
        Span.sorted d.spans = d.spans ∧
        Span.findOverlap d.spans = none ∧
        ∀ fault, Sample.of? d.tokens d.spans false = .error fault →
          fault = .sentence .duplicate ∧
          (∃ s, List.Duplicate s d.spans) ∧
          ∀ s, List.Duplicate s d.spans → s.isEmpty = true := by
  have hrun : StackDecoder.run {} ws = _ := StackDecoder.run_ofDecoder Decoder.start ws
  refine ⟨hrun, ?_, StackDecoder.orderly_start.run_ne_span, fun d hd => ?_⟩
  · rw [hrun, decodeWords_eq]
    cases Decoder.start.run ws with
    | error reason => rfl
    | ok d => exact StackDecoder.finish_ofDecoder d
  · have hkept := StackDecoder.orderly_start.run hd
    have hlast : ∀ s ∈ d.spans.getLast?, s.stop ≤ d.position :=
      fun s hs => hkept.stop_le_position s (List.mem_of_getLast? hs)
    refine ⟨hkept.single, hkept.chained, hlast, hkept.position_le, hkept.chained.sorted_eq,
      (Span.findOverlap_eq_none_iff _).mpr hkept.chained.apart, fun fault hfault => ?_⟩
    obtain ⟨hduplicate, hnodup⟩ := hkept.of?_eq_error hfault
    exact ⟨hduplicate, List.exists_duplicate_iff_not_nodup.mpr hnodup,
      fun s hs => hkept.chained.isEmpty_of_duplicate hs⟩

-- two empty entities at one place end the loop well, and no sample can be made of them
example : (StackDecoder.run {} (Text.words "a <START> <END> <START> <END>".toList)).bind
    StackDecoder.finish = .error (.line (.sentence .duplicate)) := rfl

end TaggedCorpus
