import CodeTwins.Service.Routes
import CodeTwins.Proofs.Service.Run
import CodeTwins.Proofs.Service.Schema
import CodeTwins.Proofs.Store.Settled

/-!
# Effects of requests

A request has one of three effects. It indexes elements, or it wipes the records, and then it is
answered with status 200; or it leaves the store exactly as it is. Whatever makes a request fail is
met before its first write, and a question writes nothing.
-/
namespace CodeTwins.Service

open Http Store

section Indexing

variable {α τ β γ : Type} {s s' : Service α τ}

private theorem settled_andThen {a : Answer α τ β} {next : β → Service α τ → Answer α τ γ}
    (ha : a.2.store.Settled)
    (hnext : ∀ b s, a = (.ok b, s) → s.store.Settled → (next b s).2.store.Settled) :
    (a.andThen next).2.store.Settled := by
  rcases a with ⟨result, s⟩
  cases result with
  | error f => exact ha
  | ok b => exact hnext b s rfl ha

private theorem settled_storeAll (hs : s.store.Settled) (es : List Element) (vs : List (Vec α)) :
    (s.storeAll es vs).2.store.Settled := by
  unfold storeAll
  cases es.mapM Element.encode with
  | ok => exact settled_andThen (hs.putAll _) fun _ _ _ hs₁ => hs₁
  | error => exact hs

variable [Scalar α] [Add τ] {es : List Element}

private theorem settled_embedAll (hs : s.store.Settled) (hfit : s.KeysFit es) :
    (s.embedAll es).2.store.Settled := by
  unfold embedAll
  split
  · exact hs
  · refine settled_andThen hs fun vs s₁ hask hs₁ => ?_
    obtain ⟨asked, -, rfl⟩ := onEmbedder_ok hask
    have hfits : ∀ entry ∈ cacheEntries es vs, fits entry.1.lineNumber = true := by
      intro entry hentry
      obtain ⟨e, he, hkey⟩ := key_of_mem_cacheEntries hentry
      exact (hfit e he entry.1 hkey).2
    exact settled_andThen (hs₁.cacheAll _ hfits) fun _ _ _ hs₂ => hs₂

variable [LT τ] [DecidableRel (α := τ) (· < ·)]

private theorem settled_indexBatch (hs : s.store.Settled) (es : List Element) :
    (s.indexBatch es).2.store.Settled := by
  unfold indexBatch
  split
  · exact hs
  · split
    · exact hs
    · have hread : (s.store.cachedAll s.now (es.map (·.metadata.cacheKey))).2.Settled := by
        rwa [hs.cachedAll]
      refine settled_andThen hread fun found s₁ hlookup hs₁ => ?_
      -- the lookup refuses every line that the cache would, so no write is interrupted
      obtain ⟨rfl, hfit, store, rfl, -, hsetup⟩ := lookup_ok hlookup
      exact settled_andThen (settled_embedAll hs₁ (hfit.missing hsetup _)) fun fresh s₂ _ hs₂ =>
        settled_storeAll hs₂ es _

end Indexing

variable {τ : Type}

/-- Neither the store nor the supply of ids has changed. -/
structure Unchanged {α : Type} (s s' : Service α τ) : Prop where
  store : s'.store = s.store
  ids : s'.ids = s.ids

section Unchanged

variable {α β γ : Type} {s s' : Service α τ}

theorem Unchanged.refl (s : Service α τ) : Unchanged s s :=
  ⟨rfl, rfl⟩

theorem unchanged_onStore {f : Store Element (Vec α) τ → Store.Result Element (Vec α) τ β}
    (hs : Unchanged s s') (hf : (f s'.store).2 = s'.store) : Unchanged s (s'.onStore f).2 :=
  ⟨hf.trans hs.store, hs.ids⟩

theorem unchanged_onEmbedder (hs : Unchanged s s')
    (f : Embedding.Embedder α → List String → Embedding.Asked β) :
    Unchanged s (s'.onEmbedder f).2 :=
  ⟨hs.store, hs.ids⟩

theorem unchanged_andThen {a : Answer α τ β} {next : β → Service α τ → Answer α τ γ}
    (ha : Unchanged s a.2) (hnext : ∀ b s', Unchanged s s' → Unchanged s (next b s').2) :
    Unchanged s (a.andThen next).2 := by
  rcases a with ⟨result, s'⟩
  cases result with
  | error f => exact ha
  | ok b => exact hnext b s' ha

variable [Scalar α]

section Questions

private theorem unchanged_findSimilar (hs : s.store.Settled) (id : String) (threshold : α)
    (limit : Int) : Unchanged s (s.findSimilar id threshold limit).2 := by
  unfold findSimilar
  refine unchanged_andThen (unchanged_onStore (.refl s) (hs.read _)) fun target s₁ hs₁ => ?_
  have hsettled : s₁.store.Settled := hs₁.store ▸ hs
  cases target with
  | none => exact hs₁
  | some target =>
    exact unchanged_andThen (unchanged_onStore hs₁ (hsettled.read _)) fun _ _ hs₂ => hs₂

private theorem unchanged_search (hs : s.store.Settled) (text : String) (threshold : α)
    (limit : Int) : Unchanged s (s.search text threshold limit).2 := by
  unfold search
  split
  · exact .refl s
  · refine unchanged_andThen (unchanged_onEmbedder (.refl s) _) fun v s₁ hs₁ => ?_
    have hsettled : s₁.store.Settled := hs₁.store ▸ hs
    exact unchanged_andThen (unchanged_onStore hs₁ (hsettled.read _)) fun _ _ hs₂ => hs₂

private theorem unchanged_findPairs {s : Service Float τ} (hs : s.store.Settled) (threshold : Float)
    (limit : Int) : Unchanged s (s.findPairs threshold limit).2 := by
  unfold findPairs
  exact unchanged_andThen (unchanged_onStore (.refl s) (hs.read _)) fun _ _ hs₁ => hs₁

end Questions

variable [LT τ] [DecidableRel (α := τ) (· < ·)] [Add τ] {es : List Element} {e : Element}

private theorem unchanged_of_indexBatch_error {f : Failure} (hs : s.store.Settled)
    (hes : ∀ e ∈ es, e.Writable) (h : s.indexBatch es = (.error f, s')) : Unchanged s s' := by
  have hs' : s'.store.Settled := by
    have hsettled := settled_indexBatch hs es
    rwa [h] at hsettled
  obtain ⟨hobstacle, store, asked, drawn, rfl, -, hleaves, hsetup⟩ := indexBatch_error h
  exact ⟨hs.eq_of_written hs' (hleaves.eq_of_writable hobstacle hes) hsetup, rfl⟩

private theorem unchanged_of_index_error {f : Failure} (hs : s.store.Settled) (he : e.Writable)
    (h : s.index e = (.error f, s')) : Unchanged s s' := by
  by_cases htext : e.text = ""
  · have hfail : s.index e = (.error (.noText none), s) := by simp [index, htext]
    cases hfail.symm.trans h
    exact .refl s
  · rw [index_eq_indexBatch s htext] at h
    rcases hbatch : s.indexBatch [e] with ⟨result, s₁⟩
    rw [hbatch] at h
    cases result with
    | ok ids => cases h
    | error f' =>
      cases h
      exact unchanged_of_indexBatch_error hs (List.forall_mem_singleton.mpr he) hbatch

private theorem index_ok {id : String} (h : s.index e = (.ok id, s')) :
    ∃ ids, s.indexBatch [e] = (.ok ids, s') ∧ id ∈ ids := by
  by_cases he : e.text = ""
  · simp [index, he] at h
  · rw [index_eq_indexBatch s he] at h
    rcases hbatch : s.indexBatch [e] with ⟨result, s₁⟩
    rw [hbatch] at h
    cases result with
    | error f => cases h
    | ok ids =>
      cases h
      obtain ⟨rfl, -⟩ := indexBatch_ok hbatch
      exact ⟨_, rfl, .head _⟩

end Unchanged

private theorem Failure.status_ne_ok (f : Failure) : f.status ≠ 200 := by
  unfold Failure.status
  cases f.kind <;> decide

/-- The ids that a reply gives for elements that have been indexed. -/
def givenIds : Json → List String
  | .obj [("id", .str id)] => [id]
  | .obj [("ids", .arr items)] => items.filterMap fun
    | .str id => some id
    | _ => none
  | _ => []

private theorem givenIds_list (ids : List String) :
    givenIds (.obj [("ids", .arr (ids.map .str))]) = ids := by
  simp [givenIds, List.filterMap_map]

/-- The request asks to wipe the records. -/
def Wipes (r : Request) : Prop :=
  r.method = .delete ∧ Route.ofPath r.path = some .elements

theorem snd_reply {β : Type} (a : Answer Float τ β) (body : β → Except Failure Json) :
    (reply a body).2 = a.2 := by
  rcases a with ⟨result, s⟩
  cases result with
  | error f => rfl
  | ok b =>
    unfold reply
    dsimp only
    split <;> rfl

section Effects

variable [LT τ] [DecidableRel (α := τ) (· < ·)] [Add τ]

/-- What a request does to a service, with the reply to it. -/
inductive Effect (s : Service Float τ) (r : Request) : Response × Service Float τ → Prop where
  | none {reply : Response} {s' : Service Float τ} (hs' : Unchanged s s')
      (hreply : r.method = .post → reply.status ≠ 200) : Effect s r (reply, s')
  | index {es : List Element} {ids : List String} {body : Json} {s' : Service Float τ}
      (hmethod : r.method = .post) (hlines : ∀ e ∈ es, IsLine e.metadata.lineNumber)
      (hindex : s.indexBatch es = (.ok ids, s')) (hids : ∀ id ∈ givenIds body, id ∈ ids) :
      Effect s r (⟨200, body⟩, s')
  | wipe {n : Nat} {body : Json} {s' : Service Float τ} (hwipe : Wipes r)
      (hclear : s.onStore (·.clear) = (.ok n, s')) : Effect s r (⟨200, body⟩, s')

namespace Effect

variable {s : Service Float τ} {r : Request}

private theorem of_question {γ : Type} (hmethod : r.method ≠ .post) (c : Checked γ)
    {run : γ → Response × Service Float τ} (hrun : ∀ x, Unchanged s (run x).2) :
    Effect s r (s.checked c run) := by
  cases c with
  | bad ps => exact .none (.refl s) fun h => absurd h hmethod
  | ok x => exact .none (hrun x) fun h => absurd h hmethod

private theorem of_body {γ : Type} {body : Content} {check : Json → Checked γ}
    {run : γ → Response × Service Float τ}
    (hrun : ∀ j x, check j = .ok x → Effect s r (run x)) :
    Effect s r (s.checkedBody body check run) := by
  unfold checkedBody
  split
  case h_1 j _ =>
    unfold checked
    split
    case h_1 x hx => exact hrun j x hx
    case h_2 => exact .none (.refl s) fun _ => (by decide : 400 ≠ 200)
  case h_2 | h_3 => exact .none (.refl s) fun _ => (by decide : 400 ≠ 200)

private theorem of_failure {β : Type} {s' : Service Float τ} (hs' : Unchanged s s') (f : Failure)
    (body : β → Except Failure Json) : Effect s r (reply (.error f, s') body) :=
  .none hs' fun _ => f.status_ne_ok

private theorem of_index (hs : s.store.Settled) (hmethod : r.method = .post) {e : Element}
    (hline : IsLine e.metadata.lineNumber) :
    Effect s r (reply (s.index e) fun id => .ok (.obj [("id", .str id)])) := by
  rcases hindex : s.index e with ⟨result, s'⟩
  cases result with
  | error f => exact of_failure (unchanged_of_index_error hs hline.short hindex) f _
  | ok id =>
    obtain ⟨ids, hbatch, hid⟩ := index_ok hindex
    exact .index hmethod (by simpa using hline) hbatch (by simpa [givenIds] using hid)

private theorem of_indexBatch (hs : s.store.Settled) (hmethod : r.method = .post) {es : List Element}
    (hlines : ∀ e ∈ es, IsLine e.metadata.lineNumber) :
    Effect s r (reply (s.indexBatch es) fun ids => .ok (.obj [("ids", .arr (ids.map .str))])) := by
  rcases hindex : s.indexBatch es with ⟨result, s'⟩
  cases result with
  | error f =>
    have hes : ∀ e ∈ es, e.Writable := fun e he => (hlines e he).short
    exact of_failure (unchanged_of_indexBatch_error hs hes hindex) f _
  | ok ids => exact .index hmethod hlines hindex (by simp [givenIds_list])

private theorem of_clear (hwipe : Wipes r) :
    Effect s r (reply (s.onStore (·.clear)) fun n =>
      .ok (.obj [("success", .bool true), ("deletedCount", .int n)])) := by
  rcases hclear : s.onStore (·.clear) with ⟨result, s'⟩
  cases result with
  | ok n => exact .wipe hwipe hclear
  | error f =>
    obtain ⟨fault, store, hfail, rfl, rfl⟩ := onStore_error hclear
    obtain ⟨rfl, -⟩ := transact_error hfail
    exact of_failure (.refl s) _ _

end Effect

private theorem Route.ne_post_of_allows {route : Route} {method : Method}
    (h : route.allows method = true) (helements : route ≠ .elements) (hbatch : route ≠ .batch) :
    method ≠ .post := by
  rintro rfl
  cases route <;> simp_all [Route.allows]

/-- Every request has one of the three effects. -/
theorem effect_respond {s : Service Float τ} (hs : s.store.Settled) (time : String) (r : Request) :
    Effect s r (s.respond time r) := by
  unfold respond
  split
  case h_1 => exact .none (.refl s) fun _ => by decide
  case h_2 route hroute =>
    split
    case isFalse => exact .none (.refl s) fun _ => by decide
    case isTrue hallowed =>
      unfold answer
      split
      case h_1 hmethod => exact .of_clear ⟨hmethod, hroute⟩
      case h_2 hmethod =>
        have hpost : r.method = .post := by
          cases hr : r.method <;> simp_all [Route.allows]
        exact .of_body fun j e he => .of_index hs hpost (element_ok he)
      case h_3 =>
        have hpost : r.method = .post := by
          cases hr : r.method <;> simp_all [Route.allows]
        exact .of_body fun j es hes => .of_indexBatch hs hpost (elements_ok hes)
      -- from here on the request is a question, and no question writes
      case h_4 =>
        refine .of_question (Route.ne_post_of_allows hallowed nofun nofun) _ fun x => ?_
        rw [snd_reply]
        exact unchanged_findPairs hs _ _
      case h_5 =>
        refine .of_question (Route.ne_post_of_allows hallowed nofun nofun) _ fun x => ?_
        rw [snd_reply]
        exact unchanged_findSimilar hs _ _ _
      case h_6 =>
        refine .of_question (Route.ne_post_of_allows hallowed nofun nofun) _ fun x => ?_
        rw [snd_reply]
        exact unchanged_search hs _ _ _
      case h_7 =>
        exact .none (.refl s) fun hr => absurd hr (Route.ne_post_of_allows hallowed nofun nofun)

/-- A request that comes in at a moment. The text of the time is given. -/
structure Visit (τ : Type) where
  moment : τ
  time : String
  request : Request

/-- The reply to a visit, and the service after it. -/
def receive (s : Service Float τ) (v : Visit τ) : Response × Service Float τ :=
  { s with now := v.moment }.respond v.time v.request

/-- The service after visits. -/
def serve (s : Service Float τ) (visits : List (Visit τ)) : Service Float τ :=
  visits.foldl (fun s v => (s.receive v).2) s

theorem serve_append (s : Service Float τ) (before after : List (Visit τ)) :
    s.serve (before ++ after) = (s.serve before).serve after :=
  List.foldl_append

theorem effect_receive {s : Service Float τ} (hs : s.store.Settled) (v : Visit τ) :
    Effect { s with now := v.moment } v.request (s.receive v) :=
  effect_respond (s := { s with now := v.moment }) hs v.time v.request

theorem Effect.settled {s : Service Float τ} {r : Request} {answer : Response × Service Float τ}
    (hs : s.store.Settled) (h : Effect s r answer) : answer.2.store.Settled := by
  cases h with
  | none hs' _ =>
    rw [hs'.store]
    exact hs
  | @index es _ _ _ _ _ hindex _ =>
    have hsettled := settled_indexBatch hs es
    rwa [hindex] at hsettled
  | wipe _ hclear =>
    obtain ⟨store, hstore, rfl⟩ := onStore_ok hclear
    have hsettled : s.store.clear.2.Settled := hs.transact _
    rwa [hstore] at hsettled

/-- Only what is answered with status 200, and asks for more than to get something, has an effect on the
store. -/
theorem Effect.store_eq {s s' : Service Float τ} {r : Request} {reply : Response}
    (h : Effect s r (reply, s')) (hask : reply.status ≠ 200 ∨ r.method = .get) :
    s'.store = s.store := by
  cases h with
  | none hs' _ => exact hs'.store
  | index hmethod _ _ _ =>
    rcases hask with hstatus | hget
    · exact absurd rfl hstatus
    · exact nomatch hget.symm.trans hmethod
  | wipe hwipe _ =>
    rcases hask with hstatus | hget
    · exact absurd rfl hstatus
    · exact nomatch hget.symm.trans hwipe.1

theorem settled_receive {s : Service Float τ} (hs : s.store.Settled) (v : Visit τ) :
    (s.receive v).2.store.Settled :=
  Effect.settled (s := { s with now := v.moment }) hs (effect_receive hs v)

theorem settled_serve {s : Service Float τ} (hs : s.store.Settled) (visits : List (Visit τ)) :
    (s.serve visits).store.Settled := by
  induction visits generalizing s with
  | nil => exact hs
  | cons v visits ih => exact ih (settled_receive hs v)

end Effects

end CodeTwins.Service
