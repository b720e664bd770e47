import Mathlib.Data.List.Forall2
import TaggedCorpus.Proofs.Result
import TaggedCorpus.Proofs.Stream.Progress

/-!
Reading a list of lines to its end.

Each line is read by itself, with its number; the first that cannot be read ends the reading.
What reading to the end comes to is therefore a recursion over the lines, without a source, a
reader or a consumer in it.
-/

namespace TaggedCorpus.Reader

variable {α : Type} {format : LineFormat α}

/-- The reader was given `n` lines, and will be given these and then told the end. Its source is
open, and nothing keeps it from being closed. -/
structure Offers (r : Reader) (n : Nat) (ls : List Text) : Prop where
  isOpen : r.closed = false
  number : r.lineNumber = n
  pulls : r.source.pulls = ls.map .line
  afterwards : r.source.afterwards = none
  handle : ∀ h ∈ r.source.handle, h.closings = 0 ∧ h.onClose = none

/-- A reader of these lines that has delivered `n` others before. -/
def ofLines (n : Nat) (ls : List Text) : Reader where
  source := .ofLines ls
  lineNumber := n

lemma offers_ofLines (n : Nat) (ls : List Text) : Offers (ofLines n ls) n ls :=
  ⟨rfl, rfl, rfl, rfl, by simp [ofLines, Source.ofLines]⟩

namespace Offers

variable {r : Reader} {n : Nat} {l : Text} {ls : List Text}

lemma refusal (h : Offers r n ls) : r.source.refusal? = none := by
  rw [Source.refusal?, Option.bind_eq_none_iff]
  intro handle hhandle
  rw [if_pos (h.handle handle hhandle).1]

lemma read_nil (h : Offers r n []) : r.read format = (.ok none, r) := by
  have hpull : r.source.pull = (.ended, r.source) := by
    rw [Source.pull, h.refusal, h.pulls, Source.lastPull, h.afterwards]
    rfl
  refine Prod.ext ?_ ?_
  · rw [read_fst_of_open h.isOpen, hpull]
  · rw [read_snd_of_open h.isOpen, pulled, hpull]
    rfl

lemma read_cons (format : LineFormat α) (h : Offers r n (l :: ls)) :
    r.read format = ((format.parse (n + 1) l.chomp).map some, r.pulled) ∧
      Offers r.pulled (n + 1) ls := by
  have hpull := Source.pull_of_cons h.refusal h.pulls
  have hread : (r.read format).1 = (format.parse (n + 1) l.chomp).map some := by
    rw [read_fst_of_open h.isOpen, hpull, h.number]
  refine ⟨Prod.ext hread (read_snd_of_open h.isOpen), ?_⟩
  rw [pulled, hpull, h.number]
  exact ⟨h.isOpen, rfl, rfl, h.afterwards, h.handle⟩

lemma close_eq_ok (h : Offers r n ls) : r.close.1 = .ok () := by
  rw [close_of_open h.isOpen, Source.close]
  split
  · rfl
  · rename_i handle hhandle
    rw [(h.handle handle hhandle).2]

end Offers

/-- What the lines are read as, if the first of them has number `n`. -/
def itemsFrom (format : LineFormat α) : (n : Nat) → List Text → Except Failure (List α)
  | _, [] => .ok []
  | n, l :: ls =>
    (format.parse n l.chomp).bind fun a => (itemsFrom format (n + 1) ls).map (a :: ·)

/-- What the reading was: the items handed over, or what it failed with. -/
def Consumed.outcome (c : Consumed α) : Except Failure (List α) :=
  match c.failure with
  | some e => .error e
  | none => .ok (c.handed.map (·.item))

namespace Offers

variable {r : Reader} {n : Nat} {ls : List Text}

lemma consume (h : Offers r n ls) (handed : List (Delivery α)) (accepted : Nat) :
    (r.consume format acceptAll handed accepted).outcome =
        (itemsFrom format (n + 1) ls).map (handed.map (·.item) ++ ·) ∧
      ∃ n' ls', Offers (r.consume format acceptAll handed accepted).reader n' ls' := by
  induction ls generalizing r n handed accepted with
  | nil =>
    rw [consume_of_end h.read_nil]
    exact ⟨by simp [Consumed.outcome, itemsFrom, Except.map], n, [], h⟩
  | cons l ls ih =>
    obtain ⟨hread, hnext⟩ := h.read_cons format
    cases hp : format.parse (n + 1) l.chomp with
    | error e =>
      rw [hp] at hread
      rw [consume_of_failure hread]
      exact ⟨by simp [Consumed.outcome, itemsFrom, hp, Except.bind, Except.map], n + 1, ls, hnext⟩
    | ok a =>
      rw [hp] at hread
      rw [consume_of_taken hread rfl, hnext.number]
      obtain ⟨houtcome, hreader⟩ := ih hnext (handed ++ [⟨n + 1, a⟩]) (accepted + 1)
      refine ⟨houtcome.trans ?_, hreader⟩
      rw [itemsFrom, hp]
      cases itemsFrom format (n + 1 + 1) ls <;> simp [Except.bind, Except.map]

/-- **Reading lines to the end** gives what they are read as one by one. -/
theorem outcome_drain (h : Offers r n ls) :
    (r.drain format).outcome = itemsFrom format (n + 1) ls := by
  rw [drain, (h.consume [] 0).1]
  cases itemsFrom format (n + 1) ls <;> rfl

lemma outcome_drainAndClose (h : Offers r n ls) :
    (r.drainAndClose format).outcome = itemsFrom format (n + 1) ls := by
  obtain ⟨n', ls', hreader⟩ : ∃ n' ls', Offers (r.drain format).reader n' ls' := (h.consume [] 0).2
  rw [← h.outcome_drain]
  simp only [drainAndClose, Consumed.outcome, hreader.close_eq_ok]

end Offers

theorem outcome_drainAndClose_ofLines (format : LineFormat α) (ls : List Text) :
    ((ofLines 0 ls).drainAndClose format).outcome = itemsFrom format 1 ls :=
  (offers_ofLines 0 ls).outcome_drainAndClose

lemma itemsFrom_eq_ok_iff {n : Nat} {ls : List Text} {items : List α}
    {reads : Text → α → Prop} (h : ∀ m l a, format.parse m l.chomp = .ok a ↔ reads l a) :
    itemsFrom format n ls = .ok items ↔ List.Forall₂ reads ls items := by
  induction ls generalizing n items with
  | nil =>
    rw [List.forall₂_nil_left_iff, itemsFrom]
    simp [eq_comm]
  | cons l ls ih =>
    simp only [itemsFrom, Except.bind_eq_ok_iff, Except.map_eq_ok_iff, h, ih,
      List.forall₂_cons_left_iff]
    constructor
    · rintro ⟨a, ha, rest, hrest, rfl⟩
      exact ⟨a, rest, ha, hrest, rfl⟩
    · rintro ⟨a, rest, ha, hrest, rfl⟩
      exact ⟨a, ha, rest, hrest, rfl⟩

lemma itemsFrom_eq_mapM (format : LineFormat α) (n : Nat) (ls : List Text) :
    itemsFrom format n ls = (ls.zipIdx n).mapM fun l => format.parse l.2 l.1.chomp := by
  induction ls generalizing n with
  | nil => rfl
  | cons l ls ih => rw [List.zipIdx_cons, Except.mapM_cons, itemsFrom, ih]

lemma itemsFrom_eq_error_iff {n : Nat} {ls : List Text} {f : Failure} :
    itemsFrom format n ls = .error f ↔ ∃ before l after, ls = before ++ l :: after ∧
      (∃ items, itemsFrom format n before = .ok items) ∧
      format.parse (n + before.length) l.chomp = .error f := by
  simp only [itemsFrom_eq_mapM, Except.mapM_eq_error_iff]
  constructor
  · rintro ⟨_, _, _, hsplit, hbefore, hl⟩
    obtain ⟨before, rest, rfl, rfl, hrest⟩ := List.zipIdx_eq_append_iff.mp hsplit
    obtain ⟨l, after, rfl, rfl, -⟩ := List.zipIdx_eq_cons_iff.mp hrest.symm
    exact ⟨before, l, after, rfl, hbefore, hl⟩
  · rintro ⟨before, l, after, rfl, hbefore, hl⟩
    exact ⟨_, (l, n + before.length), _, by rw [List.zipIdx_append, List.zipIdx_cons], hbefore, hl⟩

lemma itemsFrom_append (format : LineFormat α) (n : Nat) (ls ls' : List Text) :
    itemsFrom format n (ls ++ ls') = (itemsFrom format n ls).bind fun items =>
      (itemsFrom format (n + ls.length) ls').map (items ++ ·) := by
  induction ls generalizing n with
  | nil =>
    change itemsFrom format n ls' = (itemsFrom format n ls').map ([] ++ ·)
    cases itemsFrom format n ls' <;> rfl
  | cons l ls ih =>
    have hnumber : n + (l :: ls).length = n + 1 + ls.length := by
      rw [List.length_cons]
      omega
    rw [List.cons_append, itemsFrom, itemsFrom, ih, hnumber]
    cases format.parse n l.chomp with
    | error e => rfl
    | ok a =>
      cases itemsFrom format (n + 1) ls with
      | error e => rfl
      | ok items => cases itemsFrom format (n + 1 + ls.length) ls' <;> rfl

end TaggedCorpus.Reader
