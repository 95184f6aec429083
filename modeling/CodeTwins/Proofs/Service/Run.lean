import CodeTwins.Proofs.Service.Batch

/-!
# Runs of the service

A run is a list of actions: elements are indexed, alone or as a list, records are wiped, expired
vectors are dropped, and time passes. An element that is indexed alone is a list of one.
-/
namespace CodeTwins.Service

open CodeTwins.Embedding Store

/-- Something that happens to a service. -/
inductive Action (τ : Type) where
  | index (e : Element)
  | indexBatch (es : List Element)
  | deleteAll
  | purge
  | wait (d : τ)

variable {α τ : Type} [Scalar α] [LT τ] [DecidableRel (α := τ) (· < ·)] [Add τ]

/-- The service after an action. -/
def perform (s : Service α τ) : Action τ → Service α τ
  | .index e => (s.index e).2
  | .indexBatch es => (s.indexBatch es).2
  | .deleteAll => (s.onStore (·.clear)).2
  | .purge => (s.onStore (·.purge s.now)).2
  | .wait d => { s with now := s.now + d }

/-- The service after a run. -/
def run (s : Service α τ) (actions : List (Action τ)) : Service α τ :=
  actions.foldl perform s

theorem run_nil (s : Service α τ) : s.run [] = s := rfl

theorem run_cons (s : Service α τ) (action : Action τ) (actions : List (Action τ)) :
    s.run (action :: actions) = (s.perform action).run actions := rfl

omit [DecidableRel (α := τ) (· < ·)] [LT τ] in
private theorem embedAll_singleton (s : Service α τ) (e : Element) :
    s.embedAll [e] =
      (s.onEmbedder fun embedder asked => embedder.embed asked e.text).andThen fun v s =>
        (s.onStore (·.cacheAll s.now (cacheEntries [e] [v]))).andThen fun _ s => (.ok [v], s) := by
  simp only [embedAll, List.isEmpty_cons, Bool.false_eq_true, if_false, List.map_cons, List.map_nil,
    onEmbedder, Embedder.embedBatch_singleton]
  rcases s.embedder.embed s.asked e.text with ⟨result, asked⟩
  cases result <;> rfl

/-- A list of one gets the vector that its element gets alone. -/
theorem vectorFor_eq (s : Service α τ) (e : Element) :
    ((s.onStore (·.cachedAll s.now [e.metadata.cacheKey])).andThen fun found s =>
        (s.embedAll (missing [e] found)).andThen fun fresh s => (.ok (fill found fresh), s)) =
      (s.vectorFor e).andThen fun v s => (.ok [v], s) := by
  unfold vectorFor
  cases hkey : e.metadata.cacheKey with
  | none =>
    have hentries : ∀ v : Vec α, cacheEntries [e] [v] = [] := by simp [cacheEntries, hkey]
    have hlookup : s.onStore (·.cachedAll s.now [none]) = (.ok [none], s) := rfl
    rw [hlookup, ok_andThen, missing_cons_none]
    change (s.embedAll [e]).andThen _ = _
    rw [embedAll_singleton, andThen_assoc]
    congr 1
    funext v s₁
    rw [hentries]
    rfl
  | some key =>
    have hentries : ∀ v : Vec α, cacheEntries [e] [v] = [(key, v)] := by simp [cacheEntries, hkey]
    simp only [onStore, cached?]
    rcases hlookup : s.store.cachedAll s.now [some key] with ⟨result, store⟩
    cases result with
    | error f => rfl
    | ok found =>
      obtain ⟨rfl, -, -⟩ := cachedAll_ok hlookup
      cases hfound : s.store.written.cached? s.now key with
      | some v =>
        rw [List.map_cons, Option.bind_some, hfound]
        rfl
      | none =>
        rw [List.map_cons, Option.bind_some, hfound]
        change (embedAll { s with store := store } [e]).andThen _ =
          (Answer.andThen (onEmbedder { s with store := store } fun embedder asked =>
            embedder.embed asked e.text) fun v s =>
              (s.onStore (·.cache s.now key v)).andThen fun _ s => (.ok v, s)).andThen fun v s =>
                (.ok [v], s)
        rw [embedAll_singleton, andThen_assoc, andThen_assoc]
        congr 1
        funext v s₁
        rw [hentries, andThen_assoc, andThen_assoc]
        rfl

/-- An element alone is indexed as a list of one is. -/
theorem index_eq_indexBatch (s : Service α τ) {e : Element} (he : e.text ≠ "") :
    s.index e = ((s.indexBatch [e]).1.map (·.headD ""), (s.indexBatch [e]).2) := by
  have hempty : e.text.isEmpty = false := by simpa using he
  have hbatch : s.indexBatch [e] = (s.vectorFor e).andThen fun v s => s.storeAll [e] [v] := by
    have hvector := congrArg (fun answer => Answer.andThen answer fun vs s => s.storeAll [e] vs)
      (vectorFor_eq s e)
    simp only [andThen_assoc, ok_andThen] at hvector
    rw [← hvector]
    simp [indexBatch, hempty]
  rw [hbatch]
  simp only [index, hempty, Bool.false_eq_true, if_false]
  rcases s.vectorFor e with ⟨result, s₁⟩
  cases result with
  | error f => rfl
  | ok v =>
    simp only [ok_andThen]
    rcases s₁.storeAll [e] [v] with ⟨result, s₂⟩
    cases result <;> rfl

theorem perform_index (s : Service α τ) (e : Element) :
    s.perform (.index e) = s.perform (.indexBatch [e]) := by
  by_cases he : e.text = ""
  · simp [perform, index, indexBatch, he]
  · exact congrArg Prod.snd (index_eq_indexBatch s he)

end CodeTwins.Service
