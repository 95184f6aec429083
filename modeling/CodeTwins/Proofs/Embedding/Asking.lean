import CodeTwins.Embedding.Embedder

/-!
# What the provider is asked

To embed texts is to ask the provider for their chunks, one after the other and each once. A failure
ends it: then the provider has been asked for some of the chunks, from the first one on.
-/
namespace CodeTwins.Embedding

variable {α β γ ε ε' : Type}

/-- Between two lists of what has been asked, the latest first, texts have been asked for in their
order: all of them if there is a result, and the first ones otherwise. -/
def AsksFor (texts asked : List String) (result : Except ε β) (asked' : List String) : Prop :=
  ∃ first, first <+: texts ∧ asked' = first.reverse ++ asked ∧ (result.isOk = true → first = texts)

namespace AsksFor

variable {texts more asked asked₁ asked' : List String}

theorem nothing (result : Except ε β) (asked : List String) : AsksFor [] asked result asked :=
  ⟨[], List.prefix_rfl, rfl, fun _ => rfl⟩

/-- Who fails at once has asked for nothing. -/
theorem failed (texts asked : List String) (e : ε) :
    AsksFor texts asked (.error e : Except ε β) asked :=
  ⟨[], List.nil_prefix, rfl, nofun⟩

theorem of_error {e : ε} (h : AsksFor texts asked (.error e : Except ε β) asked') (e' : ε')
    (more : List String) : AsksFor (texts ++ more) asked (.error e' : Except ε' γ) asked' := by
  obtain ⟨first, hfirst, rfl, -⟩ := h
  exact ⟨first, hfirst.trans (List.prefix_append texts more), rfl, nofun⟩

private theorem eq_of_ok {b : β} (h : AsksFor texts asked (.ok b : Except ε β) asked') :
    asked' = texts.reverse ++ asked := by
  obtain ⟨first, -, rfl, hall⟩ := h
  rw [hall rfl]

theorem of_ok {b : β} {result : Except ε γ} (h : AsksFor texts asked (.ok b : Except ε β) asked₁)
    (h' : AsksFor more asked₁ result asked') : AsksFor (texts ++ more) asked result asked' := by
  obtain ⟨first, hfirst, rfl, hall⟩ := h'
  refine ⟨texts ++ first, (List.prefix_append_right_inj texts).mpr hfirst, ?_,
    fun hok => by rw [hall hok]⟩
  rw [h.eq_of_ok, List.reverse_append, List.append_assoc]

/-- Nothing more is asked for a result that depends on the first one. -/
theorem imp {result : Except ε β} {result' : Except ε' γ} (h : AsksFor texts asked result asked')
    (hok : result'.isOk = true → result.isOk = true) : AsksFor texts asked result' asked' := by
  obtain ⟨first, hfirst, rfl, hall⟩ := h
  exact ⟨first, hfirst, rfl, fun h => hall (hok h)⟩

end AsksFor

theorem isOk_map {result : Except ε β} {f : β → γ} : (result.map f).isOk = result.isOk := by
  cases result <;> rfl

theorem isOk_mapError {result : Except ε β} {f : ε → ε'} :
    (result.mapError f).isOk = result.isOk := by
  cases result <;> rfl

private theorem isOk_of_bind {result : Except ε β} {f : β → Except ε γ}
    (h : (result.bind f).isOk = true) : result.isOk = true := by
  cases result with
  | error e => cases h
  | ok b => rfl

private theorem asksFor_askAll (provider : Provider α) (asked texts : List String) :
    AsksFor texts asked (askAll provider asked texts).1 (askAll provider asked texts).2 := by
  induction texts generalizing asked with
  | nil => exact .nothing _ asked
  | cons text texts ih =>
    have hfirst : ∀ result : Except Error (Vec α), AsksFor [text] asked result (text :: asked) :=
      fun result => ⟨[text], List.prefix_rfl, rfl, fun _ => rfl⟩
    unfold askAll
    cases hanswer : provider asked text with
    | error e => exact (hfirst (.error e)).of_error e texts
    | ok v => exact ((hfirst (.ok v)).of_ok (ih (text :: asked))).imp fun h => isOk_map ▸ h

namespace Embedder

variable [Scalar α] (embedder : Embedder α)

private theorem asksFor_embed (asked : List String) (text : String) :
    AsksFor (chunks embedder.chunkLimit text) asked (embedder.embed asked text).1
      (embedder.embed asked text).2 := by
  unfold embed
  cases embedder.provider with
  | none => exact .failed _ asked Error.noEndpoint
  | some provider => exact (asksFor_askAll provider asked _).imp isOk_of_bind

private theorem asksFor_embedEach (asked texts : List String) :
    AsksFor (texts.flatMap (chunks embedder.chunkLimit)) asked (embedder.embedEach asked texts).1
      (embedder.embedEach asked texts).2 := by
  induction texts generalizing asked with
  | nil => exact .nothing _ asked
  | cons text texts ih =>
    have hfirst := embedder.asksFor_embed asked text
    rw [List.flatMap_cons]
    unfold embedEach
    rcases hembed : embedder.embed asked text with ⟨result, asked₁⟩
    rw [hembed] at hfirst
    cases result with
    | error e => exact hfirst.of_error e _
    | ok v => exact (hfirst.of_ok (ih asked₁)).imp fun h => isOk_map ▸ h

theorem asksFor_embedBatch (asked texts : List String) :
    AsksFor (texts.flatMap (chunks embedder.chunkLimit)) asked (embedder.embedBatch asked texts).1
      (embedder.embedBatch asked texts).2 := by
  unfold embedBatch
  cases embedder.provider with
  | none => exact .failed _ asked Error.noEndpoint
  | some provider => exact embedder.asksFor_embedEach asked texts

end Embedder

end CodeTwins.Embedding
