import CodeTwins.Embedding.Embedder
import CodeTwins.Proofs.Embedding.Chunk
import CodeTwins.Proofs.Vector.Mean

/-!
# Embedding one after the other

Texts are embedded one by one, also where they are embedded as a batch. What comes of the first text
and of the others decides what comes of them all. An embedder whose provider goes by the text alone
gives each text one vector, whenever it is asked for it. One whose provider keeps to one length
gives vectors of this length, but for texts that are left without chunks.
-/
namespace CodeTwins.Embedding

variable {α : Type} [Scalar α]

namespace Embedder

variable {embedder : Embedder α}

theorem embedBatch_eq_embedEach (asked : List String) {texts : List String} (h : texts ≠ []) :
    embedder.embedBatch asked texts = embedder.embedEach asked texts := by
  cases texts with
  | nil => exact absurd rfl h
  | cons text texts => cases hp : embedder.provider <;> simp [embedBatch, embedEach, embed, hp]

theorem embedBatch_singleton (asked : List String) (text : String) :
    embedder.embedBatch asked [text] =
      ((embedder.embed asked text).1.map ([·]), (embedder.embed asked text).2) := by
  rw [embedBatch_eq_embedEach asked (List.cons_ne_nil text [])]
  unfold embedEach
  rcases embedder.embed asked text with ⟨result, asked'⟩
  cases result <;> rfl

theorem embedEach_cons_ok {asked asked' texts : List String} {text : String} {vs : List (Vec α)}
    (h : embedder.embedEach asked (text :: texts) = (.ok vs, asked')) :
    ∃ v asked₁ rest, embedder.embed asked text = (.ok v, asked₁) ∧
      embedder.embedEach asked₁ texts = (.ok rest, asked') ∧ vs = v :: rest := by
  unfold embedEach at h
  rcases hv : embedder.embed asked text with ⟨result, asked₁⟩
  rw [hv] at h
  cases result with
  | error e => cases h
  | ok v =>
    rcases hrest : embedder.embedEach asked₁ texts with ⟨result, asked₂⟩
    simp only [hrest] at h
    cases result with
    | error e => cases h
    | ok rest =>
      cases h
      exact ⟨v, asked₁, rest, rfl, hrest, rfl⟩

theorem embedEach_cons_error {asked asked' texts : List String} {text : String} {e : Error}
    (h : embedder.embedEach asked (text :: texts) = (.error e, asked')) :
    embedder.embed asked text = (.error e, asked') ∨
      ∃ v asked₁, embedder.embed asked text = (.ok v, asked₁) ∧
        embedder.embedEach asked₁ texts = (.error e, asked') := by
  unfold embedEach at h
  rcases hv : embedder.embed asked text with ⟨result, asked₁⟩
  rw [hv] at h
  cases result with
  | error e' =>
    left
    cases h
    rfl
  | ok v =>
    rcases hrest : embedder.embedEach asked₁ texts with ⟨result, asked₂⟩
    simp only [hrest] at h
    cases result with
    | error e' =>
      cases h
      exact .inr ⟨v, asked₁, rfl, hrest⟩
    | ok rest => cases h

end Embedder

section Replies

variable {reply : String → Vec α} {d : Nat}

omit [Scalar α] in
private theorem askAll_replies (asked texts : List String) :
    askAll (fun _ text => .ok (reply text)) asked texts =
      (.ok (texts.map reply), texts.reverse ++ asked) := by
  induction texts generalizing asked with
  | nil => rfl
  | cons text texts ih =>
    simp only [askAll, ih, List.map_cons, List.reverse_cons, List.append_assoc,
      List.singleton_append]
    rfl

theorem embed_of_short (asked : List String) {limit : Nat} {text : String}
    (h : text.toList.length ≤ limit) :
    Embedder.embed ⟨some fun _ text => .ok (reply text), limit⟩ asked text =
      (.ok (reply text), text :: asked) := by
  simp only [Embedder.embed, chunks, if_pos h, askAll_replies]
  rfl

theorem combine_of_length {vs : List (Vec α)} (hvs : ∀ v ∈ vs, v.length = d) :
    ∃ v, combine vs = .ok v := by
  have hone : (Vec.dimensions vs).length ≤ 1 := Vec.length_dimensions_le_one_iff.mpr ⟨d, hvs⟩
  have hmean : ∃ v, (Vec.mean? vs).mapError Error.mixedLengths = .ok v :=
    ⟨Vec.mean vs, by rw [Vec.mean?, if_pos hone]; rfl⟩
  unfold combine
  split
  · exact ⟨_, rfl⟩
  · exact hmean

/-- A provider that goes by the text alone and keeps to one length gives every text a vector. -/
theorem embed_replies (hreply : ∀ text, (reply text).length = d) (limit : Nat) :
    ∃ own : String → Vec α, ∀ asked text,
      (Embedder.embed ⟨some fun _ text => .ok (reply text), limit⟩ asked text).1 =
        .ok (own text) := by
  have hcombine : ∀ text, ∃ v, combine ((chunks limit text).map reply) = .ok v := by
    intro text
    have hlength : ∀ v ∈ (chunks limit text).map reply, v.length = d := by
      intro v hv
      obtain ⟨chunk, -, rfl⟩ := List.mem_map.mp hv
      exact hreply chunk
    exact combine_of_length hlength
  refine ⟨fun text => (hcombine text).choose, fun asked text => ?_⟩
  simp only [Embedder.embed, askAll_replies]
  exact (hcombine text).choose_spec

end Replies

section Lengths

variable {provider : Provider α} {d : Nat}

/-- The provider answers every question, always with a vector of one length. -/
def KeepsLength (provider : Provider α) (d : Nat) : Prop :=
  ∀ asked text, ∃ v, provider asked text = .ok v ∧ v.length = d

omit [Scalar α] in
private theorem askAll_of_keepsLength (h : KeepsLength provider d) (asked texts : List String) :
    ∃ vs asked', askAll provider asked texts = (.ok vs, asked') ∧ vs.length = texts.length ∧
      ∀ v ∈ vs, v.length = d := by
  induction texts generalizing asked with
  | nil => exact ⟨[], asked, rfl, rfl, by simp⟩
  | cons text texts ih =>
    obtain ⟨v, hv, hlength⟩ := h asked text
    obtain ⟨vs, asked', hvs, hcount, hlengths⟩ := ih (text :: asked)
    refine ⟨v :: vs, asked', ?_, ?_, List.forall_mem_cons.mpr ⟨hlength, hlengths⟩⟩
    · simp only [askAll, hv, hvs]
      rfl
    · rw [List.length_cons, List.length_cons, hcount]

private theorem length_of_combine {vs : List (Vec α)} {v : Vec α} (hvs : ∀ v ∈ vs, v.length = d)
    (h : combine vs = .ok v) : v.length = if vs = [] then 0 else d := by
  unfold combine at h
  split at h
  · cases h
    exact hvs v (.head _)
  · obtain rfl : Vec.mean vs = v := by
      unfold Vec.mean? at h
      split at h
      · exact Except.ok.inj h
      · cases h
    split
    case isTrue hnone =>
      rw [hnone]
      rfl
    case isFalse hsome => exact Vec.length_mean hvs hsome

theorem embed_of_keepsLength (h : KeepsLength provider d) (limit : Nat) (asked : List String)
    (text : String) :
    ∃ v asked', Embedder.embed ⟨some provider, limit⟩ asked text = (.ok v, asked') ∧
      v.length = if chunks limit text = [] then 0 else d := by
  obtain ⟨vs, asked', hvs, hcount, hlengths⟩ := askAll_of_keepsLength h asked (chunks limit text)
  obtain ⟨v, hv⟩ := combine_of_length hlengths
  refine ⟨v, asked', ?_, ?_⟩
  · simp only [Embedder.embed, hvs, Except.bind, hv]
  · have hnone : vs = [] ↔ chunks limit text = [] := by
      rw [← List.length_eq_zero_iff, hcount, List.length_eq_zero_iff]
    rw [length_of_combine hlengths hv]
    simp only [hnone]

theorem length_of_embed (h : KeepsLength provider d) {limit : Nat} {asked : List String}
    {text : String} {v : Vec α}
    (hv : (Embedder.embed ⟨some provider, limit⟩ asked text).1 = .ok v) :
    v.length = if chunks limit text = [] then 0 else d := by
  obtain ⟨v', asked', hembed, hlength⟩ := embed_of_keepsLength h limit asked text
  rw [hembed] at hv
  cases hv
  exact hlength

end Lengths

end CodeTwins.Embedding
