import Mathlib.Algebra.GroupWithZero.Nat
import TaggedCorpus.Collector
import TaggedCorpus.Proofs.Result

/-!
Handing over what was collected, once.

Until it is handed over, a collector holds the sentences of all documents that could be projected,
in their order. The first trainer is given all of them. From then on, also while the trainer is
at work, the collector is empty and refuses every request, so no trainer is given anything again.
-/

namespace TaggedCorpus

/-- A document, with its sentences and tokens. -/
structure Document where
  text : Text
  sentences : List Span
  tokens : List Span

namespace Document

/-- The sentences of the document with their tokens. -/
def project (d : Document) : Except ProjectionFault (List TokenizedText) :=
  projectDocument d.text d.sentences d.tokens

lemma length_of_project {d : Document} {texts : List TokenizedText}
    (h : d.project = .ok texts) : texts.length = d.sentences.length :=
  (Except.mapM_eq_ok_iff.mp h).length_eq.symm

/-- What the documents that can be projected give together. -/
def gathered (documents : List Document) : List TokenizedText :=
  documents.flatMap fun d => d.project.toOption.getD []

lemma length_gathered (documents : List Document) :
    (gathered documents).length =
      ((documents.filter fun d => d.project.isOk).map fun d => d.sentences.length).sum := by
  induction documents with
  | nil => rfl
  | cons d documents ih =>
    have hcons : gathered (d :: documents) =
        d.project.toOption.getD [] ++ gathered documents := List.flatMap_cons
    rw [hcons, List.length_append, ih]
    cases hd : d.project with
    | error f => simp [hd, Except.toOption, Except.isOk, Except.toBool]
    | ok texts =>
      simp [hd, Except.toOption, Except.isOk, Except.toBool, length_of_project hd]

/-- The request to add the document. -/
def request {α : Type} (d : Document) : Request α := .add d.text d.sentences d.tokens

end Document

/-- What the work of a trainer comes to if the collector holds nothing whenever it looks and
refuses each of its requests. -/
def Training.refused {α : Type} : Training α → Except RequestFault α
  | .returns a => .ok a
  | .fails f => .error f
  | .looks next => (next 0).refused
  | .asks _ next => (next (.error (.failure .handedOver))).refused

namespace Collector

variable {α : Type} {c : Collector} {held : List TokenizedText}

lemma answerAll_cons (c : Collector) (q : Request α) (rest : List (Request α)) :
    c.answerAll true (q :: rest) =
      ((c.answer q).collector.answerAll true rest).after (c.answer q) := by
  rw [answerAll]
  cases (c.answer q).result <;> rfl

/-! ### Before the handing over -/

lemma answer_request_of_ok (h : c.held = some held) {d : Document} {texts : List TokenizedText}
    (hd : d.project = .ok texts) :
    (c.answer (d.request : Request α)).result = .ok (.added texts.length) ∧
      (c.answer (d.request : Request α)).collector = { c with held := some (held ++ texts) } ∧
      (c.answer (d.request : Request α)).batches = [] := by
  rw [Document.project] at hd
  simp [Document.request, answer, add, h, hd]

lemma answer_request_of_error (h : c.held = some held) {d : Document} {f : ProjectionFault}
    (hd : d.project = .error f) :
    (c.answer (d.request : Request α)).result = .error (.projection f) ∧
      (c.answer (d.request : Request α)).collector = c ∧
      (c.answer (d.request : Request α)).batches = [] := by
  rw [Document.project] at hd
  simp [Document.request, answer, add, h, hd]

lemma answerAll_requests (h : c.held = some held) (documents : List Document)
    (rest : List (Request α)) :
    (c.answerAll true (documents.map Document.request ++ rest)).collector =
        (({ c with held := some (held ++ Document.gathered documents) } : Collector).answerAll true
          rest).collector ∧
      (c.answerAll true (documents.map Document.request ++ rest)).batches =
        (({ c with held := some (held ++ Document.gathered documents) } : Collector).answerAll true
          rest).batches := by
  induction documents generalizing c held with
  | nil =>
    have hsame : ({ c with held := some (held ++ Document.gathered []) } : Collector) = c := by
      simp [Document.gathered, ← h]
    simp [hsame]
  | cons d documents ih =>
    have hgathered : Document.gathered (d :: documents) =
        d.project.toOption.getD [] ++ Document.gathered documents := List.flatMap_cons
    rw [List.map_cons, List.cons_append, answerAll_cons, hgathered]
    cases hd : d.project with
    | error f =>
      obtain ⟨-, hcollector, hbatches⟩ := answer_request_of_error (α := α) h hd
      simpa [Outcome.after, hcollector, hbatches, Except.toOption] using ih h
    | ok texts =>
      obtain ⟨-, hcollector, hbatches⟩ := answer_request_of_ok (α := α) h hd
      have hnext := ih (c := { c with held := some (held ++ texts) }) rfl
      simpa [Outcome.after, hcollector, hbatches, Except.toOption] using hnext

/-! ### After the handing over -/

lemma size_of_handedOver (h : c.held = none) : c.size = 0 := by
  rw [size, h]
  rfl

lemma answer_of_handedOver (h : c.held = none) (q : Request α) : c.answer q = c.refuse := by
  cases q with
  | add text sentences tokens => rw [answer, add, h]
  | handOver trainer => rw [answer, h]

lemma serve_of_handedOver (h : c.held = none) :
    ∀ t : Training α, c.serve t = { result := t.refused, collector := c }
  | .returns a => by rw [serve, Training.refused]
  | .fails f => by rw [serve, Training.refused]
  | .looks next => by
    rw [serve, size_of_handedOver h, serve_of_handedOver h (next 0), Training.refused]
  | .asks q next => by
    have hnext := serve_of_handedOver h (next (.error (.failure .handedOver)))
    rw [serve, answer_of_handedOver h, refuse, hnext, Training.refused]
    rfl

lemma answerAll_of_handedOver (h : c.held = none) (requests : List (Request α)) :
    (c.answerAll true requests).collector = c ∧ (c.answerAll true requests).batches = [] := by
  induction requests with
  | nil => exact ⟨rfl, rfl⟩
  | cons q rest ih =>
    rw [answerAll_cons, answer_of_handedOver h]
    exact ih

lemma answer_handOver (h : c.held = some held) (trainer : Batch → Training α) :
    c.answer (.handOver trainer) =
      { result := (trainer ⟨held, c.settings⟩).refused.map .trained
        collector := { c with held := none }
        batches := [⟨held, c.settings⟩]
        journal := [trainingEvent ⟨held, c.settings⟩] } := by
  rw [answer, h]
  simp only [serve_of_handedOver (c := { c with held := none }) rfl]

/-! ### The whole life of a collector -/

/-- **Handing over once.** Before the handing over a collector holds the sentences of the
documents that could be projected, and a document that cannot be leaves it as it is. The trainer
is given all of them in order, with the settings. While it is at work the collector is empty and
refuses it everything, and so it does ever after. -/
theorem handOver_once (settings : TrainerSettings) (documents : List Document)
    (trainer : Batch → Training α) (later : List (Request α)) :
    let fresh : Collector := { settings }
    let requests : List (Request α) := documents.map Document.request
    let c := (fresh.answerAll true requests).collector
    let batch : Batch := ⟨Document.gathered documents, settings⟩
    let handing := c.answer (.handOver trainer)
    let c' := (handing.collector.answerAll true later).collector
    c.size = ((documents.filter fun d => d.project.isOk).map fun d => d.sentences.length).sum ∧
    (∀ d : Document,
      (d.project.isOk = true ∧
        (c.answer (d.request : Request α)).result = .ok (.added d.sentences.length)) ∨
      ∃ f, d.project = .error f ∧
        (c.answer (d.request : Request α)).result = .error (.projection f) ∧
        (c.answer (d.request : Request α)).collector = c) ∧
    handing.batches = [batch] ∧
    handing.result = (trainer batch).refused.map .trained ∧
    c'.size = 0 ∧
    (∀ q : Request α, (c'.answer q).result = .error (.failure .handedOver) ∧
      (c'.answer q).collector = c' ∧ (c'.answer q).batches = []) ∧
    (fresh.answerAll true (requests ++ .handOver trainer :: later)).batches = [batch] := by
  intro fresh requests c batch handing c'
  -- the collector as it has gathered, and as it is from the handing over on
  have hgathered := answerAll_requests (α := α) (c := fresh) rfl documents
  have hc : c = { settings, held := some (Document.gathered documents) } := by
    simpa [answerAll] using (hgathered []).1
  have hheld : c.held = some (Document.gathered documents) := by rw [hc]
  have hsettings : c.settings = settings := by rw [hc]
  have hhanding : handing = _ := answer_handOver hheld trainer
  rw [hsettings] at hhanding
  have hnone : handing.collector.held = none := by rw [hhanding]
  have hc' : c' = handing.collector := (answerAll_of_handedOver hnone later).1
  refine ⟨?_, fun d => ?_, by rw [hhanding], by rw [hhanding], ?_, fun q => ?_, ?_⟩
  · rw [size, hheld]
    exact Document.length_gathered documents
  · cases hd : d.project with
    | ok texts =>
      have hresult := (answer_request_of_ok (α := α) hheld hd).1
      rw [Document.length_of_project hd] at hresult
      exact .inl ⟨rfl, hresult⟩
    | error f =>
      obtain ⟨hresult, hcollector, -⟩ := answer_request_of_error (α := α) hheld hd
      exact .inr ⟨f, rfl, hresult, hcollector⟩
  · rw [hc']
    exact size_of_handedOver hnone
  · rw [hc', answer_of_handedOver hnone]
    exact ⟨rfl, rfl, rfl⟩
  · rw [(hgathered (.handOver trainer :: later)).2, List.nil_append, ← hc, answerAll_cons]
    change handing.batches ++ (handing.collector.answerAll true later).batches = [batch]
    rw [(answerAll_of_handedOver hnone later).2, hhanding]
    rfl

end Collector

end TaggedCorpus
