import TaggedCorpus.Proofs.Stream.Closing

/-!
Feeding a consumer and releasing the source.

The consumer is called with what the reader delivers, up to the first end or failure, and the
source is closed once, whatever happens. What comes of it depends on three failures: that of the
reader or that of the consumer ends the calls and is reported, unless the closing then fails in a
way that has nothing to do with the corpus or its device.
-/

namespace TaggedCorpus.Reader

variable {α : Type} {format : LineFormat α} {consumer : Consumer α} {r unread last : Reader}
  {handed : List (Delivery α)} {failure : Option Failure}

/-! ### The result -/

/-- Closing went well, or failed in a way that is only recorded. -/
def Settled (closing : Except Failure Unit) : Prop :=
  ∀ x, closing = .error x → x.isDeviceFault = true ∨ x.isCorpusFault = true

lemma isMildClosing_iff (x : Failure) :
    isMildClosing x = true ↔ x.isDeviceFault = true ∨ x.isCorpusFault = true := by
  simp [isMildClosing]

lemma exists_of_not_settled {closing : Except Failure Unit} (h : ¬ Settled closing) :
    ∃ x, closing = .error x ∧ isMildClosing x = false := by
  simpa [Settled, isMildClosing] using h

lemma feedResult_of_settled {closing : Except Failure Unit} (h : Settled closing)
    (accepted : Nat) (reading : Option Failure) :
    (feedResult accepted reading closing).1 = match reading with
      | none => .ok accepted
      | some e => .error e := by
  cases closing with
  | ok _ => cases reading <;> rfl
  | error x =>
    have hmild : isMildClosing x = true := (isMildClosing_iff x).mpr (h x rfl)
    cases reading <;> simp [feedResult, hmild]

lemma feedResult_of_not_mild {x : Failure} (h : isMildClosing x = false) (accepted : Nat)
    (reading : Option Failure) : (feedResult accepted reading (.error x)).1 = .error x := by
  simp [feedResult, h]

lemma eq_of_feedResult_eq_ok {accepted n : Nat} {reading : Option Failure}
    {closing : Except Failure Unit} (h : (feedResult accepted reading closing).1 = .ok n) :
    n = accepted := by
  by_cases hsettled : Settled closing
  · rw [feedResult_of_settled hsettled] at h
    cases reading <;> cases h
    rfl
  · obtain ⟨x, rfl, hx⟩ := exists_of_not_settled hsettled
    rw [feedResult_of_not_mild hx] at h
    cases h

/-! ### Feeding -/

lemma Calls.feed_eq (h : Calls format consumer [] r handed unread failure last) :
    (r.feed format consumer).handed = handed ∧
      (r.feed format consumer).reader = last.close.2 ∧
      (r.feed format consumer).result =
        (feedResult (consumer.takenCount [] handed unread) failure last.close.1).1 := by
  rw [feed, h.consume_eq]
  exact ⟨rfl, rfl, by rw [Nat.zero_add]⟩

/-- **Feeding a consumer**, at any time in the life of a reader. The consumer is called with what
the reader delivers from there on, one item after the other, until the reader has no more, fails
to read, or a call fails, and nothing is pulled after that. The number that is returned is that
of the calls that return. The reader is closed, and the source has been closed exactly once in
all its life. If the closing is settled, feeding fails exactly as reading and consuming did. -/
theorem feed_calls_and_closes (format : LineFormat α) (consumer : Consumer α) (s : Source)
    (earlier later : List (Operation α)) :
    let r := (ofSource s).performAll format earlier
    let fed := r.feed format consumer
    (∃ unread failure last, Calls format consumer [] r fed.handed unread failure last ∧
      fed.reader = last.close.2 ∧ fed.reader.source.pulls = last.source.pulls ∧
      (∀ n, fed.result = .ok n → n = consumer.takenCount [] fed.handed unread) ∧
      (failure = none → Settled last.close.1 → ∃ n, fed.result = .ok n) ∧
      (∀ e, failure = some e → Settled last.close.1 → fed.result = .error e)) ∧
    fed.reader.closed = true ∧
    (fed.reader.performAll format later).source.closings? = s.closings?.map (· + 1) := by
  intro r fed
  obtain ⟨handed, unread, failure, last, hcalls⟩ := exists_calls format consumer [] r
  obtain ⟨hhanded, hreader, hresult⟩ := hcalls.feed_eq
  refine ⟨⟨unread, failure, last, hhanded ▸ hcalls, hreader, ?_, fun n hn => ?_,
    fun hnone hsettled => ?_, fun e he hsettled => ?_⟩, closed_close _, ?_⟩
  · rw [hreader, pulls_close]
  · rw [hresult] at hn
    rw [hhanded]
    exact eq_of_feedResult_eq_ok hn
  · rw [hresult, feedResult_of_settled hsettled, hnone]
    exact ⟨_, rfl⟩
  · rw [hresult, feedResult_of_settled hsettled, he]
  · have honce : ClosedOnce s fed.reader :=
      (kept_closedOnce s).perform (.feed consumer)
        ((kept_closedOnce s).performAll closedOnce_ofSource)
    have hlater : ClosedOnce s (fed.reader.performAll format later) :=
      (kept_closedOnce s).performAll honce
    have hclosed : (fed.reader.performAll format later).closed = true :=
      kept_closed.performAll (closed_close _)
    rw [ClosedOnce, hclosed] at hlater
    exact hlater

/-! ### Failures that meet -/

/-- **A failure to close after calls that failed**: the failure of the calls is reported exactly if
the closing is settled, or fails in the same way; in all other cases the failure to close is. -/
theorem feed_of_failed_calls {e : Failure}
    (h : Calls format consumer [] r handed unread (some e) last) :
    ((r.feed format consumer).result = .error e ↔
      ∀ x, last.close.1 = .error x →
        x.isDeviceFault = true ∨ x.isCorpusFault = true ∨ x = e) ∧
    ∀ x, last.close.1 = .error x → x.isDeviceFault = false → x.isCorpusFault = false →
      (r.feed format consumer).result = .error x := by
  obtain ⟨-, -, hresult⟩ := h.feed_eq
  by_cases hsettled : Settled last.close.1
  · rw [feedResult_of_settled hsettled] at hresult
    refine ⟨⟨fun _ x hx => ?_, fun _ => hresult⟩, fun x hx hdevice hcorpus => ?_⟩
    · exact (hsettled x hx).imp_right .inl
    · have := hsettled x hx
      simp [hdevice, hcorpus] at this
  · obtain ⟨y, hy, hmild⟩ := exists_of_not_settled hsettled
    rw [hy, feedResult_of_not_mild hmild] at hresult
    rw [hresult, hy]
    rw [← Bool.not_eq_true, isMildClosing_iff] at hmild
    refine ⟨⟨fun hye x hx => ?_, fun hall => ?_⟩, fun x hx _ _ => ?_⟩
    · cases hx
      cases hye
      exact .inr (.inr rfl)
    · rcases hall y rfl with h | h | rfl
      · exact absurd (.inl h) hmild
      · exact absurd (.inr h) hmild
      · rfl
    · cases hx
      rfl

/-- A source whose only line cannot be read, and whose closing fails. -/
def lostSource (onClose : Failure) : Source :=
  .ofPulls [.failed (.device "disk gone")] (some onClose)

/-- What reading that source fails with. -/
def lostFailure : Failure := .readFailed 0 (.device "disk gone")

lemma calls_lostSource (onClose : Failure) :
    Calls asSample acceptAll [] (ofSource (lostSource onClose)) [] (ofSource (lostSource onClose))
      (some lostFailure) { source := .ofPulls [] (some onClose) } where
  delivered := .nil _
  taken := by simp [Consumer.reactions]
  ending := .unreadable rfl rfl

theorem feed_of_failed_calls_lostSource :
    ((ofSource (lostSource (.device "late"))).feed asSample acceptAll).result =
        .error lostFailure ∧
      ((ofSource (lostSource (.rejected "late"))).feed asSample acceptAll).result =
        .error (.rejected "late") := by
  refine ⟨(feed_of_failed_calls (calls_lostSource (.device "late"))).1.mpr ?_,
    (feed_of_failed_calls (calls_lostSource (.rejected "late"))).2 _ rfl rfl rfl⟩
  rintro x ⟨⟩
  exact .inl rfl

/-- A failure to close can take the place of the failure that ended the calls. -/
theorem feed_closing_replaces_failure :
    ¬ ∀ (r : Reader) (consumer : Consumer Sample) (handed : List (Delivery Sample))
      (unread last : Reader) (e : Failure),
      Calls asSample consumer [] r handed unread (some e) last →
        (r.feed asSample consumer).result = .error e := by
  intro h
  have hcalls := calls_lostSource (.rejected "late")
  have hlost := h _ _ _ _ _ _ hcalls
  rw [hcalls.feed_eq.2.2] at hlost
  cases hlost

end TaggedCorpus.Reader
