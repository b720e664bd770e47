import TaggedCorpus.Proofs.Corpus

/-!
Corpora put one after the other.

A text that ends with a line feed leaves no line open, so the lines of another text after it are
the lines of that text. Each line is read by itself, and only its number in a report depends on the
lines before it. So the two texts are decoded as each would be alone, with the numbers going on.
-/

namespace TaggedCorpus

/-! ### Numbers of lines -/

section Numbers

variable {n : Nat} {ls : List Text} {samples : List Sample} {f : Failure}

lemma itemsFrom_asSample_of_ok (h : Reader.itemsFrom Reader.asSample n ls = .ok samples) :
    samples.length = ls.length ∧ ∀ m, Reader.itemsFrom Reader.asSample m ls = .ok samples := by
  have hiff : ∀ m, Reader.itemsFrom Reader.asSample m ls = .ok samples ↔
      List.Forall₂ (fun l s => Sample.ofLine l.chomp = .ok s) ls samples :=
    fun m => Reader.itemsFrom_eq_ok_iff fun m l s => asSample_parse_eq_ok_iff m l.chomp s
  have hlines := (hiff n).mp h
  exact ⟨hlines.length_eq.symm, fun m => (hiff m).mpr hlines⟩

lemma itemsFrom_asSample_of_error (h : Reader.itemsFrom Reader.asSample n ls = .error f) :
    ∃ (reason : Reason) (line : Text) (i : Nat), ∀ m : Nat,
      Reader.itemsFrom Reader.asSample m ls =
        .error (.malformed { reason, line, lineNumber := some (m + i) }) := by
  obtain ⟨before, l, after, rfl, ⟨items, hbefore⟩, hl⟩ := Reader.itemsFrom_eq_error_iff.mp h
  obtain ⟨e, he, -⟩ := Except.mapError_eq_error_iff.mp hl
  refine ⟨e.reason, e.line, before.length, fun m => ?_⟩
  rw [Reader.itemsFrom_eq_error_iff]
  refine ⟨before, l, after, rfl, ⟨items, (itemsFrom_asSample_of_ok hbefore).2 m⟩, ?_⟩
  exact Except.mapError_eq_error_iff.mpr ⟨e, he, rfl⟩

end Numbers

/-! ### Two texts -/

/-- **Decoding two texts at once.** After a text that is empty or ends with a line feed, another
text is decoded as it is alone. Its samples come after those of the first text, and a malformed line
in it is reported with the number of samples before it added to its own. A malformed line in the
first text is reported as if there were nothing after it. -/
theorem decodeText_append {t₁ : Text} (h : t₁ = [] ∨ t₁.getLast? = some '\n') (t₂ : Text) :
    (∀ samples₁ samples₂, decodeText t₁ = .ok samples₁ → decodeText t₂ = .ok samples₂ →
      decodeText (t₁ ++ t₂) = .ok (samples₁ ++ samples₂)) ∧
    (∀ f, decodeText t₁ = .error f → ∃ reason line n,
      f = .malformed { reason, line, lineNumber := some n } ∧
      decodeText (t₁ ++ t₂) = .error (.malformed { reason, line, lineNumber := some n })) ∧
    ∀ samples₁ f, decodeText t₁ = .ok samples₁ → decodeText t₂ = .error f → ∃ reason line n,
      f = .malformed { reason, line, lineNumber := some n } ∧
      decodeText (t₁ ++ t₂) =
        .error (.malformed { reason, line, lineNumber := some (samples₁.length + n) }) := by
  -- the lines of the second text are read as they are alone, but with other numbers
  have hboth : decodeText (t₁ ++ t₂) = (decodeText t₁).bind fun samples =>
      (Reader.itemsFrom Reader.asSample (1 + t₁.lines.length) t₂.lines).map (samples ++ ·) := by
    rw [decodeText_eq, decodeText_eq, Text.lines_append h, Reader.itemsFrom_append]
  refine ⟨fun samples₁ samples₂ h₁ h₂ => ?_, fun f hf => ?_, fun samples₁ f h₁ hf => ?_⟩
  · rw [decodeText_eq] at h₂
    rw [hboth, h₁, (itemsFrom_asSample_of_ok h₂).2]
    rfl
  · obtain ⟨reason, line, i, hline⟩ := itemsFrom_asSample_of_error (decodeText_eq t₁ ▸ hf)
    rw [decodeText_eq, hline 1] at hf
    cases hf
    refine ⟨reason, line, 1 + i, rfl, ?_⟩
    rw [hboth, decodeText_eq, hline 1]
    rfl
  · obtain ⟨reason, line, i, hline⟩ := itemsFrom_asSample_of_error (decodeText_eq t₂ ▸ hf)
    rw [decodeText_eq, hline 1] at hf
    cases hf
    refine ⟨reason, line, 1 + i, rfl, ?_⟩
    have hlength := (itemsFrom_asSample_of_ok (decodeText_eq t₁ ▸ h₁)).1
    have hnumber : ((1 + t₁.lines.length : Nat) : Int) + i = samples₁.length + (1 + i) := by
      omega
    rw [hboth, h₁, hline, ← hnumber]
    rfl

/-- A sentence and a blank line, with a carriage return in front of each line feed. -/
def closedText : Text := "a\r\n\r\n".toList

/-- A blank line and a malformed one. -/
def brokenText : Text := "\u2028a <END>\n".toList

/-- Before the closed text, the broken text is reported at its second line, and after it at the
fourth one. -/
theorem decodeText_append_brokenText :
    ∃ samples, decodeText closedText = .ok samples ∧
      decodeText (closedText ++ closedText) = .ok (samples ++ samples) ∧
      decodeText (brokenText ++ closedText) = .error (.malformed
        { reason := .unmatchedClosing 1, line := "a <END>".toList, lineNumber := some 2 }) ∧
      decodeText (closedText ++ brokenText) = .error (.malformed
        { reason := .unmatchedClosing 1, line := "a <END>".toList, lineNumber := some 4 }) := by
  have hlines : closedText.lines = [['a'], []] := rfl
  have hfirst := Sample.ofLine_of_decodeLine (by decide) <|
    decodeLine_eq_sentence ['a'] [.token ['a']] (by decide) (by decide) (by decide)
  have hsamples : List.Forall₂ (fun l s => Sample.ofLine l = .ok s) [['a'], []] [_, .control] :=
    .cons hfirst (.cons rfl .nil)
  have hclosed : decodeText closedText = .ok [_, .control] :=
    decodeText_eq_ok_iff.mpr (hlines ▸ hsamples)
  have hbroken : decodeText brokenText = .error (.malformed
      { reason := .unmatchedClosing 1, line := "a <END>".toList, lineNumber := some 2 }) := by
    rw [decodeText_eq]
    rfl
  have hfeed : closedText = [] ∨ closedText.getLast? = some '\n' := Or.inr rfl
  have hfeed' : brokenText = [] ∨ brokenText.getLast? = some '\n' := Or.inr rfl
  obtain ⟨hok, -, -⟩ := decodeText_append hfeed closedText
  obtain ⟨-, hearly, -⟩ := decodeText_append hfeed' closedText
  obtain ⟨-, -, hlate⟩ := decodeText_append hfeed brokenText
  refine ⟨_, hclosed, hok _ _ hclosed hclosed, ?_, ?_⟩
  · obtain ⟨_, _, _, heq, h⟩ := hearly _ hbroken
    cases heq
    exact h
  · obtain ⟨_, _, _, heq, h⟩ := hlate _ _ hclosed hbroken
    cases heq
    exact h

end TaggedCorpus
