import TaggedCorpus.Proofs.Stream.Step

/-!
Handing what a reader delivers to a consumer.

Reading to the end goes in rounds: an item is read, the consumer is called with it, and the
reader goes on as the call leaves it. The calls therefore follow the deliveries of the reader one
by one, and only the last of them can fail or close the reader.
-/

namespace TaggedCorpus.Reader

variable {α : Type} {format : LineFormat α} {consumer : Consumer α} {r r' r'' : Reader}
  {handed : List (Delivery α)} {accepted : Nat} {a : α} {e : Failure}

/-! ### One round -/

lemma consume_of_end (h : r.read format = (.ok none, r')) :
    r.consume format consumer handed accepted = ⟨handed, accepted, none, r'⟩ := by
  rw [consume]
  split <;> simp_all

lemma consume_of_failure (h : r.read format = (.error e, r')) :
    r.consume format consumer handed accepted = ⟨handed, accepted, some e, r'⟩ := by
  rw [consume]
  split <;> simp_all

lemma consume_of_taken (h : r.read format = (.ok (some a), r'))
    (hcall : (consumer handed a).on r' = (.ok (), r'')) :
    r.consume format consumer handed accepted =
      r''.consume format consumer (handed ++ [⟨r'.lineNumber, a⟩]) (accepted + 1) := by
  rw [consume]
  split
  · simp_all
  · simp_all
  · rename_i hread
    rw [h] at hread
    cases hread
    split <;> simp_all

lemma consume_of_refused (h : r.read format = (.ok (some a), r'))
    (hcall : (consumer handed a).on r' = (.error e, r'')) :
    r.consume format consumer handed accepted =
      ⟨handed ++ [⟨r'.lineNumber, a⟩], accepted, some e, r''⟩ := by
  rw [consume]
  split
  · simp_all
  · simp_all
  · rename_i hread
    rw [h] at hread
    cases hread
    split <;> simp_all

/-- What a round can come to: the end or a failure of the source, an item that the consumer
takes, or one that it does not take. -/
inductive Round (format : LineFormat α) (consumer : Consumer α) (handed : List (Delivery α))
    (r : Reader) : Prop
  | ended (r' : Reader) (hread : r.read format = (.ok none, r'))
  | failed (e : Failure) (r' : Reader) (hread : r.read format = (.error e, r'))
  | taken (a : α) (r' r'' : Reader) (hread : r.read format = (.ok (some a), r'))
    (hcall : (consumer handed a).on r' = (.ok (), r'')) (hless : r''.remaining < r.remaining)
  | refused (a : α) (e : Failure) (r' r'' : Reader) (hread : r.read format = (.ok (some a), r'))
    (hcall : (consumer handed a).on r' = (.error e, r''))

lemma round (format : LineFormat α) (consumer : Consumer α) (handed : List (Delivery α))
    (r : Reader) : Round format consumer handed r := by
  rcases hread : r.read format with ⟨e | _ | a, r'⟩
  · exact .failed e r' hread
  · exact .ended r' hread
  · rcases hcall : (consumer handed a).on r' with ⟨e | _, r''⟩
    · exact .refused a e r' r'' hread hcall
    · refine .taken a r' r'' hread hcall ?_
      have hsame := remaining_on r' (consumer handed a)
      rw [hcall] at hsame
      exact hsame ▸ remaining_read_lt hread

/-! ### What is delivered -/

/-- Reading again and again delivers these items and leaves the reader as `r'`. -/
inductive Delivers (format : LineFormat α) : Reader → List (Delivery α) → Reader → Prop
  | nil (r : Reader) : Delivers format r [] r
  | cons {r r' r'' : Reader} {a : α} {rest : List (Delivery α)}
    (hread : r.read format = (.ok (some a), r')) (hrest : Delivers format r' rest r'') :
    Delivers format r (⟨r'.lineNumber, a⟩ :: rest) r''

/-- How the consumer reacts to these items one after the other, if it was handed others
before. -/
def Consumer.reactions (consumer : Consumer α) :
    (before handed : List (Delivery α)) → List Reaction
  | _, [] => []
  | before, d :: rest => consumer before d.item :: reactions consumer (before ++ [d]) rest

/-- What the last call came to, and the reader as it left it, if the reader was `r` when the last
of these reactions began. -/
def lastCall (reactions : List Reaction) (r : Reader) : Except Failure Unit × Reader :=
  match reactions.getLast? with
  | none => (.ok (), r)
  | some x => x.on r

/-- What ends the calls, after a last one that came to this: the reader has nothing more to
deliver, it fails, or the call itself has failed. -/
inductive Ending (format : LineFormat α) (call : Except Failure Unit × Reader) :
    Option Failure → Reader → Prop
  | exhausted {r : Reader} (htaken : call.1 = .ok ()) (hread : call.2.read format = (.ok none, r)) :
    Ending format call none r
  | unreadable {r : Reader} {e : Failure} (htaken : call.1 = .ok ())
    (hread : call.2.read format = (.error e, r)) : Ending format call (some e) r
  | refused {e : Failure} (hrefused : call.1 = .error e) : Ending format call (some e) call.2

/-- The calls of a consumer that was handed `before` already: they follow what `r` delivers, all
but the last take their item and leave the reader alone, and after the last one they end with
this failure, or none, and the reader as `r''`. -/
structure Calls (format : LineFormat α) (consumer : Consumer α) (before : List (Delivery α))
    (r : Reader) (handed : List (Delivery α)) (r' : Reader) (failure : Option Failure)
    (r'' : Reader) : Prop where
  delivered : Delivers format r handed r'
  taken : ∀ x ∈ (consumer.reactions before handed).dropLast, x = .accept
  ending : Ending format (lastCall (consumer.reactions before handed) r') failure r''

/-- How many of these calls return normally, if the reader is `r` when the last one begins. -/
def Consumer.takenCount (consumer : Consumer α) (before handed : List (Delivery α))
    (r : Reader) : Nat :=
  (consumer.reactions before handed).countP fun x => (x.on r).1.isOk

lemma Consumer.takenCount_cons (consumer : Consumer α) (before handed : List (Delivery α))
    (d : Delivery α) (r : Reader) :
    consumer.takenCount before (d :: handed) r = consumer.takenCount (before ++ [d]) handed r +
      if ((consumer before d.item).on r).1.isOk then 1 else 0 := by
  rw [takenCount, reactions, List.countP_cons, takenCount]

lemma lastCall_cons_accept (xs : List Reaction) (r : Reader) :
    lastCall (.accept :: xs) r = lastCall xs r := by
  cases xs with
  | nil => rfl
  | cons x xs => rw [lastCall, List.getLast?_cons_cons, ← lastCall]

lemma Calls.cons {before : List (Delivery α)} {failure : Option Failure} {last : Reader}
    (hread : r.read format = (.ok (some a), r')) (haccept : consumer before a = .accept)
    (h : Calls format consumer (before ++ [⟨r'.lineNumber, a⟩]) r' handed r'' failure last) :
    Calls format consumer before r (⟨r'.lineNumber, a⟩ :: handed) r'' failure last where
  delivered := .cons hread h.delivered
  taken := by
    intro x hx
    rw [Consumer.reactions, haccept] at hx
    rcases hxs : consumer.reactions (before ++ [⟨r'.lineNumber, a⟩]) handed with _ | ⟨y, ys⟩
    · simp [hxs] at hx
    · rw [hxs, List.dropLast_cons_cons, List.mem_cons, ← hxs] at hx
      exact hx.elim id (h.taken x)
  ending := by
    rw [Consumer.reactions, haccept, lastCall_cons_accept]
    exact h.ending

lemma Calls.single {before : List (Delivery α)} {failure : Option Failure} {last : Reader}
    (hread : r.read format = (.ok (some a), r'))
    (hending : Ending format ((consumer before a).on r') failure last) :
    Calls format consumer before r [⟨r'.lineNumber, a⟩] r' failure last where
  delivered := .cons hread (.nil r')
  taken := by simp [Consumer.reactions]
  ending := hending

lemma Calls.tail {before : List (Delivery α)} {d : Delivery α} {failure : Option Failure}
    {last : Reader} (hdelivers : Delivers format r' (d :: handed) r'')
    (h : Calls format consumer before r (⟨r'.lineNumber, a⟩ :: d :: handed) r'' failure last) :
    consumer before a = .accept ∧
      Calls format consumer (before ++ [⟨r'.lineNumber, a⟩]) r' (d :: handed) r'' failure
        last := by
  have htaken := h.taken
  have hending := h.ending
  rw [Consumer.reactions, Consumer.reactions, List.dropLast_cons_cons, ← Consumer.reactions,
    List.forall_mem_cons] at htaken
  rw [Consumer.reactions, htaken.1, lastCall_cons_accept] at hending
  exact ⟨htaken.1, hdelivers, htaken.2, hending⟩

/-- Calls that follow what is delivered and end as they should are those that are made. -/
theorem Calls.consume_eq {before : List (Delivery α)} {failure : Option Failure} {last : Reader}
    (h : Calls format consumer before r handed r' failure last) (accepted : Nat) :
    r.consume format consumer before accepted =
      ⟨before ++ handed, accepted + consumer.takenCount before handed r', failure, last⟩ := by
  have hdelivered := h.delivered
  induction hdelivered generalizing before accepted with
  | nil r =>
    have hending : Ending format (.ok (), r) failure last := h.ending
    cases hending with
    | exhausted _ hread =>
      rw [consume_of_end hread, List.append_nil]
      rfl
    | unreadable _ hread =>
      rw [consume_of_failure hread, List.append_nil]
      rfl
    | refused hrefused => cases hrefused
  | @cons r r' r'' a rest hread hrest ih =>
    cases rest with
    | nil =>
      cases hrest
      have hending : Ending format ((consumer before a).on r') failure last := h.ending
      have hcount := consumer.takenCount_cons before [] ⟨r'.lineNumber, a⟩ r'
      rcases hcall : (consumer before a).on r' with ⟨answer, r''⟩
      rw [hcall] at hending hcount
      rw [hcount]
      cases hending with
      | exhausted htaken hlast =>
        obtain rfl : answer = .ok () := htaken
        rw [consume_of_taken hread hcall, consume_of_end hlast]
        rfl
      | unreadable htaken hlast =>
        obtain rfl : answer = .ok () := htaken
        rw [consume_of_taken hread hcall, consume_of_failure hlast]
        rfl
      | refused hrefused =>
        obtain rfl : answer = .error _ := hrefused
        rw [consume_of_refused hread hcall]
        rfl
    | cons d rest =>
      obtain ⟨haccept, htail⟩ := h.tail hrest
      have hcall : (consumer before a).on r' = (.ok (), r') := by
        rw [haccept]
        rfl
      have hcount := consumer.takenCount_cons before (d :: rest) ⟨r'.lineNumber, a⟩ r''
      rw [haccept] at hcount
      rw [consume_of_taken hread hcall, ih htail, hcount]
      simp only [List.append_assoc, List.singleton_append, Reaction.on, Except.isOk,
        Except.toBool, if_true, Consumed.mk.injEq, true_and, and_true]
      omega

/-- **The calls of a consumer** come to an end, however it reacts. -/
theorem exists_calls (format : LineFormat α) (consumer : Consumer α)
    (before : List (Delivery α)) (r : Reader) :
    ∃ handed r' failure last, Calls format consumer before r handed r' failure last := by
  induction hn : r.remaining using Nat.strongRecOn generalizing r before with
  | ind n ih =>
  subst hn
  cases round format consumer before r with
  | ended r' hread =>
    exact ⟨[], r, none, r', .nil r, by simp [Consumer.reactions], .exhausted rfl hread⟩
  | failed e r' hread =>
    exact ⟨[], r, some e, r', .nil r, by simp [Consumer.reactions], .unreadable rfl hread⟩
  | refused a e r' r'' hread hcall =>
    have hending : Ending format ((consumer before a).on r') (some e) r'' := by
      rw [hcall]
      exact .refused rfl
    exact ⟨_, r', some e, r'', .single hread hending⟩
  | taken a r' r'' hread hcall hless =>
    cases hx : consumer before a with
    | accept =>
      -- the reader is left alone, so the remaining calls follow what it delivers from here on
      rw [hx] at hcall
      cases hcall
      obtain ⟨handed, r'', failure, last, hcalls⟩ :=
        ih _ hless (before ++ [⟨r'.lineNumber, a⟩]) r' rfl
      exact ⟨_, r'', failure, last, hcalls.cons hread hx⟩
    | refuse e =>
      rw [hx] at hcall
      cases hcall
    | closeThen answer =>
      -- the reader is closed now, so there is no further call
      have hclosed : r''.closed = true := by
        have hclose : r'.close.2 = r'' := by
          rw [hx] at hcall
          exact congrArg Prod.snd hcall
        exact hclose ▸ closed_close r'
      have hending : Ending format ((consumer before a).on r') none r'' := by
        rw [hcall]
        exact .exhausted rfl (read_of_closed hclosed)
      exact ⟨_, r', none, r'', .single hread hending⟩

end TaggedCorpus.Reader
