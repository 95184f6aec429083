import CodeTwins.Service.Basic
import CodeTwins.Proofs.Store.Outcome
import Mathlib.Data.List.Nodup

/-!
# Answers of the service

An answer of two actions comes from the first, if that fails, and from both otherwise. An action of
the store or of the embedder leaves the rest of the service alone.
-/
namespace CodeTwins.Service

variable {α τ β γ δ : Type} {s s' : Service α τ}

theorem ok_andThen (b : β) (s : Service α τ) (next : β → Service α τ → Answer α τ γ) :
    Answer.andThen (.ok b, s) next = next b s := rfl

theorem andThen_assoc (a : Answer α τ β) (next : β → Service α τ → Answer α τ γ)
    (last : γ → Service α τ → Answer α τ δ) :
    (a.andThen next).andThen last = a.andThen fun b s => (next b s).andThen last := by
  rcases a with ⟨result, s₁⟩
  cases result <;> rfl

theorem andThen_ok {a : Answer α τ β} {next : β → Service α τ → Answer α τ γ} {c : γ}
    (h : a.andThen next = (.ok c, s')) : ∃ b s₁, a = (.ok b, s₁) ∧ next b s₁ = (.ok c, s') := by
  rcases a with ⟨result, s₁⟩
  cases result with
  | error f => cases h
  | ok b => exact ⟨b, s₁, rfl, h⟩

theorem andThen_error {a : Answer α τ β} {next : β → Service α τ → Answer α τ γ} {f : Failure}
    (h : a.andThen next = (.error f, s')) :
    a = (.error f, s') ∨ ∃ b s₁, a = (.ok b, s₁) ∧ next b s₁ = (.error f, s') := by
  rcases a with ⟨result, s₁⟩
  cases result with
  | error f' =>
    left
    cases h
    rfl
  | ok b => exact .inr ⟨b, s₁, rfl, h⟩

theorem onStore_ok {f : Store Element (Vec α) τ → Store.Result Element (Vec α) τ β} {b : β}
    (h : s.onStore f = (.ok b, s')) :
    ∃ store, f s.store = (.ok b, store) ∧ s' = { s with store := store } := by
  unfold onStore at h
  rcases hf : f s.store with ⟨result, store⟩
  rw [hf] at h
  cases result with
  | error fault => cases h
  | ok b' =>
    cases h
    exact ⟨store, rfl, rfl⟩

theorem onStore_error {f : Store Element (Vec α) τ → Store.Result Element (Vec α) τ β}
    {failure : Failure} (h : s.onStore f = (.error failure, s')) :
    ∃ fault store, f s.store = (.error fault, store) ∧ failure = .store fault ∧
      s' = { s with store := store } := by
  unfold onStore at h
  rcases hf : f s.store with ⟨result, store⟩
  rw [hf] at h
  cases result with
  | error fault =>
    cases h
    exact ⟨fault, store, rfl, rfl, rfl⟩
  | ok b => cases h

theorem onEmbedder_ok {f : Embedding.Embedder α → List String → Embedding.Asked β} {b : β}
    (h : s.onEmbedder f = (.ok b, s')) :
    ∃ asked, f s.embedder s.asked = (.ok b, asked) ∧ s' = { s with asked := asked } := by
  unfold onEmbedder at h
  rcases hf : f s.embedder s.asked with ⟨result, asked⟩
  rw [hf] at h
  cases result with
  | error e => cases h
  | ok b' =>
    cases h
    exact ⟨asked, rfl, rfl⟩

theorem onEmbedder_error {f : Embedding.Embedder α → List String → Embedding.Asked β}
    {failure : Failure} (h : s.onEmbedder f = (.error failure, s')) :
    ∃ e asked, f s.embedder s.asked = (.error e, asked) ∧ failure = .embedding e ∧
      s' = { s with asked := asked } := by
  unfold onEmbedder at h
  rcases hf : f s.embedder s.asked with ⟨result, asked⟩
  rw [hf] at h
  cases result with
  | error e =>
    cases h
    exact ⟨e, asked, rfl, rfl, rfl⟩
  | ok b => cases h

/-- The next ids. -/
def nextIds (s : Service α τ) (n : Nat) : List String :=
  (s.drawIds n).1

@[simp] theorem length_nextIds (s : Service α τ) (n : Nat) : (s.nextIds n).length = n := by
  simp [nextIds, drawIds]

/-- The ids still to come are distinct from each other and from those in use. -/
structure FreshIds (s : Service α τ) : Prop where
  injective : Function.Injective s.ids
  unused : ∀ n, s.drawn ≤ n → s.ids n ∉ s.store.written.ids

theorem FreshIds.nodup (hs : s.FreshIds) (n : Nat) : (s.nextIds n).Nodup := by
  have hinj : Function.Injective fun i => s.ids (s.drawn + i) :=
    hs.injective.comp fun i j h => Nat.add_left_cancel h
  exact List.Nodup.map hinj List.nodup_range

theorem FreshIds.not_mem (hs : s.FreshIds) {n : Nat} {id : String} (h : id ∈ s.nextIds n) :
    id ∉ s.store.written.ids := by
  obtain ⟨i, -, rfl⟩ := List.mem_map.mp h
  exact hs.unused _ (Nat.le_add_right s.drawn i)

end CodeTwins.Service
