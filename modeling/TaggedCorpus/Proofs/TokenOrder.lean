import TaggedCorpus.Collector
import TaggedCorpus.Proofs.Projection
import TaggedCorpus.Service.Endpoint

/-!
The order in which tokens are given.

What is kept of a token are its bounds, and the tokens of a sentence are put into ascending order,
so only how often each pair of bounds is given counts. Of token intervals that bound no span the
first one given is reported, so for these the order does count.
-/

namespace TaggedCorpus

/-- Where a span starts and where it stops. -/
def Span.bounds (s : Span) : Nat × Nat := (s.start, s.stop)

/-! ### Documents -/

section Documents

variable {tokens tokens' : List Span}

lemma Span.projectTokens_congr (h : (tokens.map bounds).Perm (tokens'.map bounds))
    (sentence : Span) : sentence.projectTokens tokens = sentence.projectTokens tokens' := by
  -- a projection is told by the bounds of the tokens alone
  have hprojection := isProjection_projectTokens sentence tokens
  have hwithin := h.filter fun b => sentence.start ≤ b.1 && b.2 ≤ sentence.stop
  rw [List.filter_map, List.filter_map] at hwithin
  exact IsProjection.eq
    { unlabelled := hprojection.unlabelled
      ascending := hprojection.ascending
      bounds := hprojection.bounds.trans hwithin }

lemma projectDocument_congr (h : (tokens.map Span.bounds).Perm (tokens'.map Span.bounds))
    (text : Text) (sentences : List Span) :
    projectDocument text sentences tokens = projectDocument text sentences tokens' := by
  have hsentence : ∀ sentence,
      projectSentence text sentence tokens = projectSentence text sentence tokens' := by
    intro sentence
    rw [projectSentence, projectSentence, Span.projectTokens_congr h]
  rw [projectDocument, projectDocument, funext hsentence]

end Documents

/-! ### Requests -/

namespace Service

lemma projected_eq (q : ProjectRequest) :
    projected q = (spansOf q.sentences).bind fun sentences => (spansOf q.tokens).bind fun tokens =>
      (projectDocument q.text sentences tokens).mapError .projection := rfl

/-- The interval bounds no span, for this reason. -/
def Interval.Faulty (i : Interval) (f : SpanFault) : Prop := Span.of? i.start i.stop none = .error f

lemma exists_faulty_of_spansOf {intervals : List Interval} {f : ProjectFault}
    (h : spansOf intervals = .error f) : ∃ i ∈ intervals, ∃ f', i.Faulty f' ∧ f = .span f' := by
  obtain ⟨i, hi, hfault⟩ := Except.exists_of_mapM_eq_error h
  obtain ⟨f', hf', rfl⟩ := Except.mapError_eq_error_iff.mp hfault
  exact ⟨i, hi, f', hf', rfl⟩

lemma project_perm {q : ProjectRequest} {tokens : List Interval} (hp : tokens.Perm q.tokens) :
    project { q with tokens } = project q ∨
      ∃ i ∈ q.tokens, ∃ j ∈ q.tokens, ∃ f f', i.Faulty f ∧ j.Faulty f' ∧ f ≠ f' ∧
        project q = .unprocessable (.span f) ∧
        project { q with tokens } = .unprocessable (.span f') := by
  rw [project, project, projected_eq, projected_eq]
  cases hsentences : spansOf q.sentences with
  | error f => exact Or.inl rfl
  | ok sentences =>
    cases hspans : spansOf q.tokens with
    | ok spans =>
      obtain ⟨spans', hspans', hperm⟩ : ∃ spans', spansOf tokens = .ok spans' ∧ spans'.Perm spans :=
        Except.mapM_perm hp hspans
      have hdocument := projectDocument_congr (hperm.map Span.bounds) q.text sentences
      left
      simp only [Except.bind, hspans', hdocument]
    | error f =>
      cases hspans' : spansOf tokens with
      | ok spans' =>
        obtain ⟨spans, hok, -⟩ : ∃ spans, spansOf q.tokens = .ok spans ∧ spans.Perm spans' :=
          Except.mapM_perm hp.symm hspans'
        rw [hspans] at hok
        cases hok
      | error f' =>
        obtain ⟨i, hi, g, hg, rfl⟩ := exists_faulty_of_spansOf hspans
        obtain ⟨j, hj, g', hg', rfl⟩ := exists_faulty_of_spansOf hspans'
        by_cases hsame : g = g'
        · subst hsame
          exact Or.inl rfl
        · exact Or.inr ⟨i, hi, j, hp.mem_iff.mp hj, g, g', hg, hg', hsame, rfl, rfl⟩

end Service

/-- **The order of the tokens does not matter.** Tokens with the same bounds, each pair as often,
come to the same sentences or the same fault, and a collector answers and holds the same. A request
is answered in the same way with its tokens in any order, except that of several different faults of
their intervals one is reported, and it may be another one. -/
theorem projection_ignores_order :
    (∀ tokens tokens' : List Span, (tokens.map Span.bounds).Perm (tokens'.map Span.bounds) →
      ∀ (text : Text) (sentences : List Span),
        projectDocument text sentences tokens = projectDocument text sentences tokens' ∧
        ∀ (α : Type) (c : Collector), (c.add text sentences tokens : Outcome (Response α)) =
          c.add text sentences tokens') ∧
    ∀ (q : Service.ProjectRequest) (tokens : List Service.Interval), tokens.Perm q.tokens →
      Service.project { q with tokens } = Service.project q ∨
        ∃ i ∈ q.tokens, ∃ j ∈ q.tokens, ∃ f f', i.Faulty f ∧ j.Faulty f' ∧ f ≠ f' ∧
          Service.project q = .unprocessable (.span f) ∧
          Service.project { q with tokens } = .unprocessable (.span f') := by
  refine ⟨fun tokens tokens' h text sentences => ?_, fun q tokens hp => Service.project_perm hp⟩
  have hdocument := projectDocument_congr h text sentences
  refine ⟨hdocument, fun α c => ?_⟩
  rw [Collector.add, Collector.add, hdocument]

/-- The words of the text in another order, with a label each. -/
def labelledTokens : List Span :=
  scatteredTokens.reverse.map fun s => { s with label := some ['x'] }

/-- A request with two words of a text. -/
def wordsRequest : Service.ProjectRequest where
  text := "We stay".toList
  sentences := [⟨0, 7⟩, ⟨3, 7⟩]
  tokens := [⟨0, 2⟩, ⟨3, 7⟩]

theorem projection_ignores_order_labelledTokens :
    projectDocument twoSentences [latterPart, lastSentence] scatteredTokens =
        projectDocument twoSentences [latterPart, lastSentence] labelledTokens ∧
      Service.project { wordsRequest with tokens := [⟨3, 7⟩, ⟨0, 2⟩] } =
        Service.project wordsRequest := by
  obtain ⟨hspans, hrequest⟩ := projection_ignores_order
  refine ⟨(hspans scatteredTokens labelledTokens (by decide) _ _).1, ?_⟩
  rcases hrequest wordsRequest [⟨3, 7⟩, ⟨0, 2⟩] (by decide) with hsame | ⟨i, hi, -, -, f, -, hf, -⟩
  · exact hsame
  · -- both intervals bound spans
    change i ∈ [(⟨0, 2⟩ : Service.Interval), ⟨3, 7⟩] at hi
    simp only [List.mem_cons, List.not_mem_nil, or_false] at hi
    rcases hi with rfl | rfl <;> cases hf

/-- Two intervals that start before the text does. -/
def faultyTokens : List Service.Interval := [⟨-1, 0⟩, ⟨-2, 0⟩]

/-- Of two faulty intervals the first one given is reported, so the order of the tokens shows in the
answer. -/
theorem project_depends_on_order_of_faults :
    ¬ ∀ (q : Service.ProjectRequest) (tokens : List Service.Interval), tokens.Perm q.tokens →
      Service.project { q with tokens } = Service.project q := by
  intro h
  have hsame := h ⟨[], [], faultyTokens⟩ faultyTokens.reverse faultyTokens.reverse_perm
  have hfirst : Service.project ⟨[], [], faultyTokens⟩ =
      .unprocessable (.span (.negativeStart (-1) 0)) := rfl
  have hreversed : Service.project ⟨[], [], faultyTokens.reverse⟩ =
      .unprocessable (.span (.negativeStart (-2) 0)) := rfl
  rw [hfirst] at hsame
  cases hreversed.symm.trans hsame

end TaggedCorpus
