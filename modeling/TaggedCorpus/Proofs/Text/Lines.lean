import Mathlib.Data.List.TakeWhile
import TaggedCorpus.Proofs.Text.Words
import TaggedCorpus.Text.Lines

/-!
Lines, and the texts they are put into.

No line has a break in it, so lines that are each followed by a line feed are found again as
they were, blank ones included. Every break is a blank, so no word has one in it either. A text
has the same lines in memory and in a file unless a character in it breaks lines in memory alone.
-/

namespace TaggedCorpus.Text

lemma isBlank_of_isLineBreak {c : Char} (h : isLineBreak c = true) : isBlank c = true := by
  have h9 : ('\n').toNat = 0x0A := rfl
  have hD : ('\r').toNat = 0x0D := rfl
  simp only [isLineBreak, isNewline, isExoticBreak, Bool.or_eq_true, Bool.and_eq_true,
    decide_eq_true_eq, beq_iff_eq] at h
  simp only [isBlank, isWhiteSpace, isInformationSeparator, Bool.or_eq_true, Bool.and_eq_true,
    decide_eq_true_eq, beq_iff_eq]
  rcases h with (rfl | rfl) | h
  · omega
  · omega
  · omega

lemma isLineBreak_eq_false {c : Char} (h : isBlank c = false) : isLineBreak c = false := by
  cases hb : isLineBreak c with
  | false => rfl
  | true =>
    rw [isBlank_of_isLineBreak hb] at h
    cases h

lemma isLineBreak_eq_false_of_mem_unwords {ws : List Text} (h : ∀ w ∈ ws, IsWord w) :
    ∀ c ∈ unwords ws, isLineBreak c = false := by
  intro c hc
  rcases mem_unwords hc with rfl | ⟨w, hw, hcw⟩
  · decide
  · exact isLineBreak_eq_false ((h w hw).2 c hcw)

/-! ### Lines of a text -/

lemma eq_false_of_mem_linesAt {p : Char → Bool} {t l : Text} (h : l ∈ linesAt p t) :
    ∀ c ∈ l, p c = false := by
  rw [linesAt, List.mem_append, List.mem_filter, Option.mem_toList] at h
  rcases h with h | ⟨h, -⟩
  · exact eq_false_of_mem_piece l (List.dropLast_subset _ h)
  · exact eq_false_of_mem_piece l (List.mem_of_getLast? h)

lemma isLineBreak_eq_false_of_mem_lines {t l : Text} (h : l ∈ t.lines) :
    ∀ c ∈ l, isLineBreak c = false :=
  eq_false_of_mem_linesAt h

lemma dropEndWhile_eq_self {p : Char → Bool} {t : Text} (h : ∀ c ∈ t, p c = false) :
    dropEndWhile p t = t := by
  have hdrop : t.reverse.dropWhile p = t.reverse := by
    rw [List.dropWhile_eq_self_iff]
    intro hlen
    rw [h _ (List.mem_reverse.mp (List.getElem_mem hlen))]
    simp
  rw [dropEndWhile, hdrop, List.reverse_reverse]

lemma chomp_eq_self {l : Text} (h : ∀ c ∈ l, isLineBreak c = false) : chomp l = l := by
  refine dropEndWhile_eq_self fun c hc => ?_
  have := h c hc
  rw [isLineBreak, Bool.or_eq_false_iff] at this
  exact this.1

lemma map_chomp_lines (t : Text) : t.lines.map chomp = t.lines :=
  (List.map_congr_left fun _ hl => chomp_eq_self (isLineBreak_eq_false_of_mem_lines hl)).trans
    (List.map_id _)

lemma unifyBreaks_eq_self {t : Text} (h : ∀ c ∈ t, c ≠ '\r') : unifyBreaks t = t := by
  induction t with
  | nil => rfl
  | cons c t ih =>
    have hc := h c (by simp)
    rw [unifyBreaks, ih fun d hd => h d (by simp [hd])]
    simp [hc]

/-- The text in which each of these lines is followed by a line feed. -/
def ofLines (ls : List Text) : Text := ls.flatMap fun l => l ++ ['\n']

lemma splitOnP_ofLines {ls : List Text} (h : ∀ l ∈ ls, ∀ c ∈ l, isLineBreak c = false) :
    (ofLines ls).splitOnP isLineBreak = ls ++ [[]] := by
  induction ls with
  | nil => simp [ofLines]
  | cons l ls ih =>
    have htext : ofLines (l :: ls) = l ++ '\n' :: ofLines ls := by simp [ofLines]
    rw [htext, List.splitOnP_append_cons_of_forall_mem (h l (by simp)) '\n' (by decide),
      ih fun x hx => h x (by simp [hx])]
    rfl

lemma lines_ofLines {ls : List Text} (h : ∀ l ∈ ls, ∀ c ∈ l, isLineBreak c = false) :
    lines (ofLines ls) = ls := by
  have hreturn : ∀ c ∈ ofLines ls, c ≠ '\r' := by
    intro c hc hcr
    subst hcr
    obtain ⟨l, hl, hc⟩ := List.mem_flatMap.mp hc
    have hlc : '\r' ∈ l := by simpa using hc
    have := h l hl '\r' hlc
    revert this
    decide
  have hpieces : pieces isLineBreak (ofLines ls) = ls ++ [[]] := by
    rw [pieces, unifyBreaks_eq_self hreturn, splitOnP_ofLines h]
  rw [lines, linesAt, hpieces]
  simp

/-! ### Lines of a file -/

/-- Pieces as lines: the last piece is one only if it is not empty. -/
def linesOfPieces (ps : List Text) : List Text :=
  ps.dropLast ++ (ps.getLast?.toList.filter fun l => !l.isEmpty)

@[simp] lemma linesOfPieces_nil : linesOfPieces [[]] = [] := rfl

@[simp] lemma linesOfPieces_singleton (c : Char) (w : Text) :
    linesOfPieces [c :: w] = [c :: w] := rfl

@[simp] lemma linesOfPieces_cons_cons (v w : Text) (ps : List Text) :
    linesOfPieces (v :: w :: ps) = v :: linesOfPieces (w :: ps) := by
  rw [linesOfPieces, List.dropLast_cons_cons, List.getLast?_cons_cons, List.cons_append,
    ← linesOfPieces]

/-- Breaks are unified on the two sides of a line feed apart, even if a carriage return stands in
front of it. -/
lemma exists_unifyBreaks_append (s : Text) :
    ∃ u, ∀ t, unifyBreaks (s ++ '\n' :: t) = u ++ '\n' :: unifyBreaks t := by
  induction s with
  | nil => exact ⟨[], fun t => rfl⟩
  | cons c s ih =>
    obtain ⟨u, hu⟩ := ih
    have hhead : ∀ t, (s ++ '\n' :: t).head? = (s ++ ['\n']).head? := by
      intro t
      cases s <;> rfl
    by_cases hc : (c == '\r' && (s ++ ['\n']).head? == some '\n') = true
    · refine ⟨u, fun t => ?_⟩
      rw [List.cons_append, unifyBreaks, hhead, if_pos hc, hu]
    · refine ⟨c :: u, fun t => ?_⟩
      rw [List.cons_append, unifyBreaks, hhead, if_neg hc, hu, List.cons_append]

lemma linesOfPieces_append (ps : List Text) {qs : List Text} (hq : qs ≠ []) :
    linesOfPieces (ps ++ qs) = ps ++ linesOfPieces qs := by
  induction ps with
  | nil => rfl
  | cons p ps ih =>
    obtain ⟨w, ws, hw⟩ := List.exists_cons_of_ne_nil (List.append_ne_nil_of_right_ne_nil ps hq)
    rw [hw] at ih
    rw [List.cons_append, hw, linesOfPieces_cons_cons, ih, List.cons_append]

lemma linesAt_append_newline {p : Char → Bool} (hp : p '\n' = true) (s t : Text) :
    linesAt p (s ++ '\n' :: t) = linesAt p (s ++ ['\n']) ++ linesAt p t := by
  obtain ⟨u, hu⟩ := exists_unifyBreaks_append s
  have hlines : ∀ t, linesAt p (s ++ '\n' :: t) = u.splitOnP p ++ linesAt p t := by
    intro t
    have hpieces : pieces p (s ++ '\n' :: t) = u.splitOnP p ++ pieces p t := by
      rw [pieces, hu, List.splitOnP_append_cons u _ hp, pieces]
    rw [linesAt, hpieces]
    exact linesOfPieces_append _ (List.splitOnP_ne_nil p _)
  have hlast : linesAt p [] = [] := rfl
  rw [hlines t, hlines [], hlast, List.append_nil]

lemma lines_append {s : Text} (h : s = [] ∨ s.getLast? = some '\n') (t : Text) :
    lines (s ++ t) = lines s ++ lines t := by
  rcases h with rfl | h
  · rfl
  · obtain ⟨u, rfl⟩ := List.getLast?_eq_some_iff.mp h
    rw [List.append_assoc, List.singleton_append]
    exact linesAt_append_newline rfl u t

/-! ### Breaks written as line feeds -/

end TaggedCorpus.Text
