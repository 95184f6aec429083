import CodeTwins.Proofs.Service.Queries

/-!
# Records by their numbers

Ids are drawn one after the other and none is drawn twice. So a record that is found under an id at
any time is the one that was stored under it.
-/
namespace CodeTwins.Service

open Http Store

section Follows

variable {α τ β γ : Type} {s s' : Service α τ}

/-- The embedder is the same, and no id that was drawn will be drawn again. -/
structure Follows (s s' : Service α τ) : Prop where
  embedder : s'.embedder = s.embedder
  drawn : s.drawn ≤ s'.drawn

private theorem Follows.refl (s : Service α τ) : Follows s s :=
  ⟨rfl, Nat.le_refl _⟩

private theorem follows_andThen {a : Answer α τ β} {next : β → Service α τ → Answer α τ γ}
    (ha : Follows s a.2) (hnext : ∀ b s', Follows s s' → Follows s (next b s').2) :
    Follows s (a.andThen next).2 := by
  rcases a with ⟨result, s'⟩
  cases result with
  | error f => exact ha
  | ok b => exact hnext b s' ha

private theorem follows_onStore (hs : Follows s s')
    (f : Store Element (Vec α) τ → Store.Result Element (Vec α) τ β) :
    Follows s (s'.onStore f).2 :=
  ⟨hs.embedder, hs.drawn⟩

private theorem follows_onEmbedder (hs : Follows s s')
    (f : Embedding.Embedder α → List String → Embedding.Asked β) :
    Follows s (s'.onEmbedder f).2 :=
  ⟨hs.embedder, hs.drawn⟩

variable [Scalar α]

private theorem follows_findSimilar (s : Service α τ) (id : String) (threshold : α) (limit : Int) :
    Follows s (s.findSimilar id threshold limit).2 := by
  refine follows_andThen (follows_onStore (.refl s) _) fun target s₁ hs₁ => ?_
  cases target with
  | none => exact hs₁
  | some target => exact follows_andThen (follows_onStore hs₁ _) fun _ _ hs₂ => hs₂

private theorem follows_search (s : Service α τ) (text : String) (threshold : α) (limit : Int) :
    Follows s (s.search text threshold limit).2 := by
  unfold search
  split
  · exact .refl s
  · refine follows_andThen (follows_onEmbedder (.refl s) _) fun v s₁ hs₁ => ?_
    exact follows_andThen (follows_onStore hs₁ _) fun _ _ hs₂ => hs₂

private theorem follows_findPairs (s : Service α τ) (threshold : α) (limit : Int) :
    Follows s (s.findPairs threshold limit).2 :=
  follows_andThen (follows_onStore (.refl s) _) fun _ _ hs₁ => hs₁

variable [LT τ] [DecidableRel (α := τ) (· < ·)] [Add τ]

private theorem follows_indexBatch (s : Service α τ) (es : List Element) :
    Follows s (s.indexBatch es).2 := by
  rcases hrun : s.indexBatch es with ⟨result, s'⟩
  cases result with
  | ok ids =>
    obtain ⟨-, -, vs, store, asked, rfl, -⟩ := indexBatch_ok hrun
    exact ⟨rfl, Nat.le_add_right _ _⟩
  | error f =>
    obtain ⟨-, store, asked, drawn, rfl, hdrawn, -⟩ := indexBatch_error hrun
    exact ⟨rfl, hdrawn⟩

private theorem follows_index (s : Service α τ) (e : Element) : Follows s (s.index e).2 := by
  by_cases he : e.text = ""
  · have hnone : s.index e = (.error (.noText none), s) := by simp [index, he]
    rw [hnone]
    exact .refl s
  · rw [index_eq_indexBatch s he]
    exact follows_indexBatch s [e]

end Follows

section Growth

variable {τ : Type} {s s' s'' : Service Float τ} {ids : List String} {es : List Element}

/-- Ids are drawn from the same supply, and new records have the ids that have been drawn. -/
structure Grows (s s' : Service Float τ) : Prop extends Follows s s' where
  ids : s'.ids = s.ids
  records : ∀ r ∈ s'.store.written.records,
    r ∈ s.store.written.records ∨ ∃ n, s.drawn ≤ n ∧ n < s'.drawn ∧ r.id = s.ids n

private theorem Grows.refl (s : Service Float τ) : Grows s s :=
  ⟨.refl s, rfl, fun _ hr => .inl hr⟩

private theorem Grows.trans (h : Grows s s') (h' : Grows s' s'') : Grows s s'' := by
  refine ⟨⟨h'.embedder.trans h.embedder, h.drawn.trans h'.drawn⟩, h'.ids.trans h.ids,
    fun r hr => ?_⟩
  rcases h'.records r hr with hr | ⟨n, hn, hlt, hid⟩
  · rcases h.records r hr with hr | ⟨n, hn, hlt, hid⟩
    · exact .inl hr
    · exact .inr ⟨n, hn, hlt.trans_le h'.drawn, hid⟩
  · exact .inr ⟨n, h.drawn.trans hn, hlt, h.ids ▸ hid⟩

/-- The ids of the records have been drawn, each once. -/
structure Numbered (s : Service Float τ) : Prop where
  injective : Function.Injective s.ids
  records : ∀ r ∈ s.store.written.records, ∃ n < s.drawn, r.id = s.ids n

theorem Numbered.grows (hs : Numbered s) (h : Grows s s') : Numbered s' := by
  refine ⟨h.ids ▸ hs.injective, fun r hr => ?_⟩
  rw [h.ids]
  rcases h.records r hr with hr | ⟨n, -, hlt, hid⟩
  · obtain ⟨n, hlt, hid⟩ := hs.records r hr
    exact ⟨n, hlt.trans_le h.drawn, hid⟩
  · exact ⟨n, hlt, hid⟩

theorem mem_nextIds {id : String} {n : Nat} (h : id ∈ s.nextIds n) :
    ∃ m, s.drawn ≤ m ∧ m < s.drawn + n ∧ id = s.ids m := by
  obtain ⟨i, hi, rfl⟩ := List.mem_map.mp h
  exact ⟨s.drawn + i, Nat.le_add_right _ _, Nat.add_lt_add_left (List.mem_range.mp hi) _, rfl⟩

/-- The records with the given ids are those of the given elements. -/
def Holds (s : Service Float τ) (ids : List String) (es : List Element) : Prop :=
  ∀ r ∈ s.store.written.records, ∀ p ∈ ids.zip es, r.id = p.1 → r.element = p.2

private theorem eq_of_mem_zip {α β : Type} {as : List α} {bs : List β} (hnodup : as.Nodup)
    {p q : α × β} (hp : p ∈ as.zip bs) (hq : q ∈ as.zip bs) (h : p.1 = q.1) : p.2 = q.2 := by
  obtain ⟨i, hi, rfl⟩ := List.getElem_of_mem hp
  obtain ⟨j, hj, rfl⟩ := List.getElem_of_mem hq
  simp only [List.getElem_zip] at h ⊢
  obtain rfl := (List.Nodup.getElem_inj_iff hnodup).mp h
  rfl

private theorem mem_zip_of_mem_zip {α β γ : Type} {as : List α} {bs : List β} {cs : List γ}
    {p : α × β × γ} (h : p ∈ as.zip (bs.zip cs)) : (p.1, p.2.1) ∈ as.zip bs := by
  obtain ⟨i, hi, rfl⟩ := List.getElem_of_mem h
  simp only [List.getElem_zip]
  simp only [List.length_zip] at hi
  have hlt : i < (as.zip bs).length := by
    rw [List.length_zip]
    omega
  have hmem := List.getElem_mem hlt
  rwa [List.getElem_zip] at hmem

private theorem Numbered.nodup_nextIds (hs : Numbered s) (n : Nat) : (s.nextIds n).Nodup := by
  have hinjective : Function.Injective fun i => s.ids (s.drawn + i) :=
    hs.injective.comp fun i j h => Nat.add_left_cancel h
  exact List.nodup_range.map hinjective

theorem Holds.grows (hs : Numbered s) (hids : ∀ id ∈ ids, ∃ n < s.drawn, id = s.ids n)
    (h : Holds s ids es) (hgrows : Grows s s') : Holds s' ids es := by
  intro r hr p hp hid
  rcases hgrows.records r hr with hr | ⟨n, hn, -, hrid⟩
  · exact h r hr p hp hid
  · obtain ⟨m, hm, hpid⟩ := hids p.1 (List.of_mem_zip hp).1
    have := hs.injective (hrid.symm.trans (hid.trans hpid))
    omega

private theorem follows_checked {γ : Type} (c : Checked γ) {run : γ → Response × Service Float τ}
    (hrun : ∀ x, Follows s (run x).2) : Follows s (s.checked c run).2 := by
  cases c with
  | ok x => exact hrun x
  | bad ps => exact .refl s

private theorem follows_checkedBody {γ : Type} (body : Content) (check : Json → Checked γ)
    {run : γ → Response × Service Float τ} (hrun : ∀ x, Follows s (run x).2) :
    Follows s (s.checkedBody body check run).2 := by
  unfold checkedBody
  split
  case h_1 j _ => exact follows_checked (check j) hrun
  case h_2 | h_3 => exact .refl s

variable [LT τ] [DecidableRel (α := τ) (· < ·)] [Add τ]

theorem grows_indexBatch (h : s.indexBatch es = (.ok ids, s')) : Grows s s' := by
  obtain ⟨rfl, -, vs, store, asked, rfl, hassigned, hwritten, -⟩ := indexBatch_ok h
  refine ⟨⟨rfl, Nat.le_add_right _ _⟩, rfl, fun r hr => ?_⟩
  dsimp only at hr
  rw [hwritten] at hr
  rcases Tables.mem_records_putAll hr with hold | hnew
  · exact .inl (by simpa using hold)
  · have hids := (recordsOf_parts (length_nextIds s es.length) hassigned.length_eq).1
    exact .inr (mem_nextIds (hids ▸ List.mem_map_of_mem hnew))

/-- The elements of a list that has been indexed are held under its ids. -/
theorem holds_indexBatch (hs : Numbered s) (h : s.indexBatch es = (.ok ids, s')) :
    Holds s' ids es := by
  obtain ⟨rfl, -, vs, store, asked, rfl, hassigned, hwritten, -⟩ := indexBatch_ok h
  intro r hr p hp hid
  dsimp only at hr
  rw [hwritten] at hr
  have hnext := (List.of_mem_zip hp).1
  rcases Tables.mem_records_putAll hr with hold | hnew
  · -- the ids of older records were drawn before
    obtain ⟨n, hn, hrid⟩ := hs.records r (by simpa using hold)
    obtain ⟨m, hm, -, hpid⟩ := mem_nextIds hnext
    have := hs.injective (hrid.symm.trans (hid.trans hpid))
    omega
  · obtain ⟨row, hrow, rfl⟩ := List.mem_map.mp hnew
    exact eq_of_mem_zip (hs.nodup_nextIds _) (mem_zip_of_mem_zip hrow) hp hid

private theorem follows_respond (time : String) (s : Service Float τ) (r : Request) :
    Follows s (s.respond time r).2 := by
  have hreply : ∀ {β : Type} (a : Answer Float τ β) (body : β → Except Failure Json),
      Follows s a.2 → Follows s (reply a body).2 := by
    intro β a body h
    rwa [snd_reply]
  unfold respond
  split
  · exact .refl s
  · split
    case isFalse => exact .refl s
    case isTrue =>
      unfold answer
      split
      case h_1 => exact hreply _ _ (follows_onStore (.refl s) _)
      case h_2 => exact follows_checkedBody _ _ fun e => hreply _ _ (follows_index s e)
      case h_3 => exact follows_checkedBody _ _ fun es => hreply _ _ (follows_indexBatch s es)
      case h_4 => exact follows_checked _ fun x => hreply _ _ (follows_findPairs s _ _)
      case h_5 => exact follows_checked _ fun x => hreply _ _ (follows_findSimilar s _ _ _)
      case h_6 => exact follows_checked _ fun x => hreply _ _ (follows_search s _ _ _)
      case h_7 => exact .refl s

private theorem Effect.grows {r : Request} {reply : Response} (h : Effect s r (reply, s'))
    (hfollows : Follows s s') : Grows s s' := by
  cases h with
  | none hs' _ => exact ⟨hfollows, hs'.ids, fun r hr => .inl (hs'.store ▸ hr)⟩
  | index _ _ hindex _ => exact grows_indexBatch hindex
  | wipe _ hclear =>
    obtain ⟨store, hstore, rfl⟩ := onStore_ok hclear
    refine ⟨hfollows, rfl, fun r hr => .inl ?_⟩
    dsimp only at hr
    rw [(transact_ok hstore).1] at hr
    exact (List.mem_filter.mp hr).1

private theorem grows_receive (hs : s.store.Settled) (v : Visit τ) : Grows s (s.receive v).2 := by
  have hgrows := Effect.grows (s := { s with now := v.moment }) (effect_receive hs v)
    (follows_respond v.time _ v.request)
  exact ⟨⟨hgrows.embedder, hgrows.drawn⟩, hgrows.ids, hgrows.records⟩

theorem grows_serve (hs : s.store.Settled) (visits : List (Visit τ)) :
    Grows s (s.serve visits) := by
  induction visits generalizing s with
  | nil => exact .refl s
  | cons v visits ih => exact (grows_receive hs v).trans (ih (settled_receive hs v))

end Growth

end CodeTwins.Service
