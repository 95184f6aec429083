import CodeTwins.Proofs.Embedding.Reply
import CodeTwins.Proofs.Service.Batch
import CodeTwins.Proofs.Service.Run

/-!
# Errors of the provider

Whatever a provider replies, it is taken for a vector or told as an error of the provider, and so is
whatever comes of that for texts, for batches of them and for elements that are indexed. The one
exception is a reply that is a list where a vector is looked for, with an item that is no number.
-/
namespace CodeTwins.Service

open CodeTwins.Embedding

variable {τ : Type} [LT τ] [DecidableRel (α := τ) (· < ·)] [Add τ] {s s' : Service Float τ}
  {provider : Provider Float} {limit : Nat} {error : Embedding.Error}

private theorem comesOf_indexBatch (hembedder : s.embedder = ⟨some provider, limit⟩)
    {es : List Element} (h : s.indexBatch es = (.error (.embedding error), s')) :
    ∃ e ∈ es, ComesOf provider limit e.text error := by
  cases (indexBatch_error h).1 with
  | noVector hes _ _ hfail =>
    rw [hembedder] at hfail
    exact ⟨_, by simp [hes], comesOf_embed hfail⟩

private theorem comesOf_index (hembedder : s.embedder = ⟨some provider, limit⟩) {e : Element}
    (h : s.index e = (.error (.embedding error), s')) : ComesOf provider limit e.text error := by
  by_cases htext : e.text = ""
  · simp [index, htext] at h
  · rw [index_eq_indexBatch s htext] at h
    obtain ⟨hresult, hs'⟩ := Prod.mk.inj h
    have hbatch : s.indexBatch [e] = (.error (.embedding error), s') :=
      Prod.ext (map_eq_error_iff.mp hresult) hs'
    obtain ⟨e', he', hcomes⟩ := comesOf_indexBatch hembedder hbatch
    rwa [List.mem_singleton.mp he'] at hcomes

/-- An error of the provider, or that of an item that is no number in the reply to a chunk of one of
the texts. -/
def Told (outcome : List String → String → Outcome) (limit : Nat) (texts : List String)
    (error : Embedding.Error) : Prop :=
  error.IsReported ∨ ∃ text ∈ texts, ∃ chunk ∈ chunks limit text, ∃ asked m,
    HoldsBadItem (outcome asked chunk) m ∧ error = .item m

private theorem told_of_comesOf {timeLimit : String} {outcome : List String → String → Outcome}
    {texts : List String} {text : String} (htext : text ∈ texts)
    (h : ComesOf (replying timeLimit outcome) limit text error) :
    Told outcome limit texts error := by
  cases h with
  | mixed lengths => exact .inl (.inr rfl)
  | asked hchunk he =>
    rcases vectorOf_error he with hreported | ⟨m, hbad, rfl⟩
    · exact .inl hreported
    · exact .inr ⟨text, htext, _, hchunk, _, m, hbad, rfl⟩

/-- What comes of a request is taken for a vector if it is a success with a list of numbers at
`data[0].embedding`. Otherwise there is an error of the provider, which is one of time if and only if
there was no reply in time, unless there is such a list with an item that is no number: then there is
an error that no one expects. That is how a text fails whose first chunk without a vector has such a
reply, and no text, no batch in whatever order and no element that is indexed fails for the provider
in another way. -/
theorem told_or_bad_item (timeLimit : String) :
    (∀ o : Outcome,
      (∀ v, vectorOf timeLimit o = .ok v ↔
        ∃ items, HoldsItems o items ∧ List.Forall₂ (fun j x => j.toFloat = .ok x) items v) ∧
      ((∃ e, vectorOf timeLimit o = .error e ∧ e.IsTimeout) ↔ ∃ reason, o = .timeout reason) ∧
      (∀ m, vectorOf timeLimit o = .error (.item m) ↔ HoldsBadItem o m) ∧
      ∀ e, vectorOf timeLimit o = .error e → e.IsReported ∨ ∃ m, e = .item m) ∧
    ∀ outcome limit,
      let provider := replying timeLimit outcome
      (∀ asked text m, (Embedder.embed ⟨some provider, limit⟩ asked text).1 = .error (.item m) ↔
        ∃ before chunk after, chunks limit text = before ++ chunk :: after ∧
          (∃ vs, (askAll provider asked before).1 = .ok vs) ∧
          HoldsBadItem (outcome (before.reverse ++ asked) chunk) m) ∧
      (∀ asked text e, (Embedder.embed ⟨some provider, limit⟩ asked text).1 = .error e →
        Told outcome limit [text] e) ∧
      (∀ asked texts e, (Embedder.embedBatch ⟨some provider, limit⟩ asked texts).1 = .error e →
        Told outcome limit texts e) ∧
      (∀ cap texts turns pool e, Batch.run ⟨provider, limit, cap, texts⟩
          (Batch.start ⟨provider, limit, cap, texts⟩) turns = some pool →
        Batch.result ⟨provider, limit, cap, texts⟩ pool = .error e → Told outcome limit texts e) ∧
      ∀ s : Service Float τ, s.embedder = ⟨some provider, limit⟩ →
        (∀ e error s', s.index e = (.error (.embedding error), s') →
          Told outcome limit [e.text] error) ∧
        ∀ es error s', s.indexBatch es = (.error (.embedding error), s') →
          Told outcome limit (es.map (·.text)) error := by
  refine ⟨fun o => ⟨fun v => vectorOf_eq_ok_iff, vectorOf_isTimeout_iff,
    fun m => vectorOf_eq_item_iff, fun e he => ?_⟩, fun outcome limit => ?_⟩
  · rcases vectorOf_error he with hreported | ⟨m, -, rfl⟩
    · exact .inl hreported
    · exact .inr ⟨m, rfl⟩
  · intro provider
    refine ⟨fun asked text m => ?_, fun asked text e he => ?_, fun asked texts e he => ?_,
      fun cap texts turns pool e hrun he => ?_,
      fun s hembedder => ⟨fun e error s' h => ?_, fun es error s' h => ?_⟩⟩
    · rw [embed_item_iff]
      simp only [provider, replying, vectorOf_eq_item_iff]
    · exact told_of_comesOf (.head _) (comesOf_embed he)
    · obtain ⟨text, htext, hcomes⟩ := comesOf_embedBatch he
      exact told_of_comesOf htext hcomes
    · obtain ⟨text, htext, hcomes⟩ := comesOf_result hrun he
      exact told_of_comesOf htext hcomes
    · exact told_of_comesOf (.head _) (comesOf_index hembedder h)
    · obtain ⟨e, he, hcomes⟩ := comesOf_indexBatch hembedder h
      exact told_of_comesOf (List.mem_map_of_mem he) hcomes

section Examples

private def askingService (o : Outcome) : Service Float Int where
  store := Store.empty 10
  embedder := ⟨some (replying "30" fun _ _ => o), 100⟩
  ids := toString
  now := 0

private def bareElement : Element :=
  ⟨{ filePath := "a.js", lineNumber := 1, elementName := "f" }, "f"⟩

/-- An element is not indexed by a provider that cannot be reached, and is told so. -/
theorem told_or_bad_item_unreachable :
    ∃ error s', (askingService (.unreachable "gone")).index bareElement =
        (.error (.embedding error), s') ∧
      Told (fun _ _ => .unreachable "gone") 100 [bareElement.text] error := by
  have hindex : (askingService (.unreachable "gone")).index bareElement =
      (.error (.embedding (.unreachable "gone")), _) := rfl
  have htold := ((told_or_bad_item "30").2 (fun _ _ => .unreachable "gone") 100).2.2.2.2
    (askingService (.unreachable "gone")) rfl
  exact ⟨_, _, hindex, htold.1 _ _ _ hindex⟩

/-- A null in a vector is told in the words of its conversion, and not as an error of the provider. -/
theorem null_unreported :
    let reply := .reply 200 (.text none "\x7b\"data\": [\x7b\"embedding\": [1, null]\x7d]\x7d")
    let error := .item (.notNumber "NoneType")
    vectorOf "30" reply = .error error ∧ ¬ error.IsReported ∧
      ((askingService reply).index bareElement).1 = .error (.embedding error) := by
  refine ⟨by decide +kernel, ?_, by decide +kernel⟩
  rintro (htimeout | hprovider)
  · cases htimeout
  · cases hprovider

end Examples

end CodeTwins.Service
