import CodeTwins.Proofs.Service.Requests
import CodeTwins.Proofs.Similarity.Closest
import CodeTwins.Proofs.Traversal

/-!
# Questions after requests

Whatever requests have come in before, a question about a record that is held is answered. So is the
question for the closest pairs, unless there are several records and one of them has a vector with a
number that is not finite: then it is refused until the records are wiped.
-/
namespace CodeTwins.Service

open Http Store

/-- A text that can stand as an id in a path. -/
structure IsName (id : String) : Prop where
  ne_empty : id ≠ ""
  ne_all : id ≠ "all"
  no_slash : '/' ∉ id.toList

private theorem splitOn_of_not_mem {sep : Char} {cs : List Char} (h : sep ∉ cs) :
    Text.splitOn sep cs = [cs] := by
  induction cs with
  | nil => rfl
  | cons c cs ih =>
    obtain ⟨hc, hcs⟩ := not_or.mp (List.mem_cons.not.mp h)
    simp [Text.splitOn, ih hcs, Ne.symm hc]

private theorem ofPath_similar {id : String} (h : IsName id) :
    Route.ofPath ("/similar/" ++ id) = some (.similar id) := by
  have hparts : (Text.splitOn '/' ("/similar/" ++ id).toList).map String.ofList =
      ["", "similar", id] := by
    simp [String.toList_append, Text.splitOn, splitOn_of_not_mem h.no_slash]
  have hexact : Route.ofExactPath ("/similar/" ++ id) = some (.similar id) := by
    unfold Route.ofExactPath
    rw [hparts]
    simp [h.ne_all, h.ne_empty]
  rw [Route.ofPath, hexact, Option.some_or]

theorem ofPath_pairs : Route.ofPath "/similar/all" = some .pairs := by
  decide

variable {τ : Type}

/-- A service whose store is open, with elements whose lines may stand in replies. -/
structure Answerable (s : Service Float τ) : Prop where
  settled : s.store.Settled
  isOpen : s.store.isOpen = true
  lines : ∀ r ∈ s.store.written.records, IsLine r.element.metadata.lineNumber

theorem Answerable.at_moment {s : Service Float τ} (hs : Answerable s) (moment : τ) :
    Answerable { s with now := moment } :=
  ⟨hs.settled, hs.isOpen, hs.lines⟩

/-- To read the tables leaves the service as it is. -/
theorem Answerable.read {β : Type} {s : Service Float τ} (hs : Answerable s)
    (f : Tables Element (Vec Float) τ → β) :
    s.onStore (·.transact fun t => (t, f t)) = (.ok (f s.store.written), s) := by
  rw [onStore, hs.settled.transact_read hs.isOpen]
  rfl

theorem Answerable.empty {s : Service Float τ} {ttl : τ} (hstore : s.store = Store.empty ttl) :
    Answerable s := by
  refine ⟨?_, ?_, ?_⟩ <;> rw [hstore]
  · exact settled_empty ttl
  · rfl
  · exact fun _ h => nomatch h

section Effects

variable [LT τ] [DecidableRel (α := τ) (· < ·)] [Add τ]

namespace Effect

variable {s s' : Service Float τ} {r : Request} {reply : Response}

private theorem ids_eq (h : Effect s r (reply, s')) : s'.ids = s.ids := by
  cases h with
  | none hs' _ => exact hs'.ids
  | index _ _ hindex _ =>
    obtain ⟨-, -, vs, store, asked, rfl, -⟩ := indexBatch_ok hindex
    rfl
  | wipe _ hclear =>
    obtain ⟨store, -, rfl⟩ := onStore_ok hclear
    rfl

theorem answerable (h : Effect s r (reply, s')) (hs : Answerable s) : Answerable s' := by
  refine ⟨h.settled hs.settled, ?_, ?_⟩
  · cases h with
    | none hs' _ => exact hs'.store ▸ hs.isOpen
    | index _ _ hindex _ =>
      obtain ⟨-, -, vs, store, asked, rfl, -, -, hsetup⟩ := indexBatch_ok hindex
      exact (isOpen_of_setup hsetup).trans hs.isOpen
    | wipe _ hclear =>
      obtain ⟨store, hstore, rfl⟩ := onStore_ok hclear
      have hsetup := setup_transact s.store Tables.clear
      exact (isOpen_of_setup (congrArg (fun a => a.2.setup) hstore ▸ hsetup)).trans hs.isOpen
  · cases h with
    | none hs' _ => exact hs'.store ▸ hs.lines
    | index _ hlines hindex _ =>
      -- the lines of new records have been checked with the body
      obtain ⟨-, -, vs, store, asked, rfl, -, hwritten, -⟩ := indexBatch_ok hindex
      intro r hr
      dsimp only at hr
      rw [hwritten] at hr
      rcases Tables.mem_records_putAll hr with hold | hnew
      · exact hs.lines r (by simpa using hold)
      · exact hlines _ (List.of_mem_zip (mem_recordsOf hnew)).1
    | wipe _ hclear =>
      obtain ⟨store, hstore, rfl⟩ := onStore_ok hclear
      intro r hr
      dsimp only at hr
      rw [(transact_ok hstore).1] at hr
      exact hs.lines r (List.mem_filter.mp hr).1

private theorem isSome_get?_of_given (h : Effect s r (reply, s')) (hmethod : r.method = .post)
    (hstatus : reply.status = 200) {id : String} (hid : id ∈ givenIds reply.body) :
    (s'.store.written.get? id).isSome ∧ ∃ n, id = s.ids n := by
  cases h with
  | none _ hreply => exact absurd hstatus (hreply hmethod)
  | index _ _ hindex hids =>
    obtain ⟨rfl, -, vs, store, asked, rfl, hassigned, hwritten, -⟩ := indexBatch_ok hindex
    have hnext := hids id hid
    refine ⟨?_, ?_⟩
    · have hrecords := (recordsOf_parts (length_nextIds s _) hassigned.length_eq).1
      rw [hwritten, Tables.isSome_get?_putAll, hrecords]
      exact .inr hnext
    · obtain ⟨i, -, rfl⟩ := List.mem_map.mp hnext
      exact ⟨s.drawn + i, rfl⟩
  | wipe hwipe _ => cases hmethod.symm.trans hwipe.1

private theorem isSome_get? (h : Effect s r (reply, s')) (hwipe : ¬ Wipes r) {id : String}
    (hid : (s.store.written.get? id).isSome) : (s'.store.written.get? id).isSome := by
  cases h with
  | none hs' _ => rwa [hs'.store]
  | index _ _ hindex _ =>
    obtain ⟨-, -, vs, store, asked, rfl, -, hwritten, -⟩ := indexBatch_ok hindex
    rw [hwritten, Tables.isSome_get?_putAll, Tables.get?_cacheAllUntil]
    exact .inl hid
  | wipe hwipes _ => exact absurd hwipes hwipe

end Effect

section Visits

variable {s : Service Float τ}

theorem answerable_serve (hs : Answerable s) (visits : List (Visit τ)) :
    Answerable (s.serve visits) := by
  induction visits generalizing s with
  | nil => exact hs
  | cons v visits ih => exact ih ((effect_receive hs.settled v).answerable (hs.at_moment v.moment))

private theorem ids_serve (hs : s.store.Settled) (visits : List (Visit τ)) :
    (s.serve visits).ids = s.ids := by
  induction visits generalizing s with
  | nil => rfl
  | cons v visits ih => exact (ih (settled_receive hs v)).trans (effect_receive hs v).ids_eq

private theorem isSome_get?_serve (hs : s.store.Settled) {visits : List (Visit τ)}
    (hwipe : ∀ v ∈ visits, ¬ Wipes v.request) {id : String}
    (hid : (s.store.written.get? id).isSome) :
    ((s.serve visits).store.written.get? id).isSome := by
  induction visits generalizing s with
  | nil => exact hid
  | cons v visits ih =>
    obtain ⟨hv, hvisits⟩ := List.forall_mem_cons.mp hwipe
    exact ih (settled_receive hs v) hvisits ((effect_receive hs v).isSome_get? hv hid)

/-- A record whose id was given stays as long as nothing is wiped. -/
theorem isSome_get?_of_post (hs : s.store.Settled) {post : Visit τ}
    (hmethod : post.request.method = .post) (hstatus : (s.receive post).1.status = 200)
    {id : String} (hid : id ∈ givenIds (s.receive post).1.body) {after : List (Visit τ)}
    (hwipe : ∀ v ∈ after, ¬ Wipes v.request) :
    ((s.serve (post :: after)).store.written.get? id).isSome ∧ ∃ n, id = s.ids n := by
  obtain ⟨hrecord, hn⟩ := (effect_receive hs post).isSome_get?_of_given hmethod hstatus hid
  exact ⟨isSome_get?_serve (settled_receive hs post) hwipe hrecord, hn⟩

end Visits

end Effects

section Replies

variable {s : Service Float τ} {γ : Type}

private theorem elementJson_ok {e : Element} (h : 1 ≤ e.metadata.lineNumber) :
    ∃ j, elementJson e = .ok j :=
  ⟨_, if_neg (Int.not_lt.mpr h)⟩

private theorem pairJson_ok {p : Scored Float (Element × Element)}
    (h₁ : 1 ≤ p.item.1.metadata.lineNumber) (h₂ : 1 ≤ p.item.2.metadata.lineNumber) :
    ∃ j, pairJson p = .ok j := by
  obtain ⟨j₁, hj₁⟩ := elementJson_ok h₁
  obtain ⟨j₂, hj₂⟩ := elementJson_ok h₂
  exact ⟨_, by rw [pairJson, hj₁, hj₂]; rfl⟩

private theorem status_reply_listJson {f : γ → Except Failure Json} {l : List γ}
    (h : ∀ x ∈ l, ∃ j, f x = .ok j) (name : String) :
    (reply (.ok l, s) (listJson name f)).1.status = 200 := by
  obtain ⟨js, hjs⟩ := exists_mapM_ok_iff.mpr h
  rw [reply, listJson, hjs]
  rfl

theorem Answerable.line_of_mem_all (hs : Answerable s) {r : Record Element (Vec Float)}
    (hr : r ∈ s.store.written.all) : IsLine r.element.metadata.lineNumber :=
  hs.lines r (Tables.mem_records_of_mem_all hr)

private theorem status_findSimilar (hs : Answerable s) {id : String}
    (hid : (s.store.written.get? id).isSome) (threshold : Float) (limit : Int) :
    (reply (s.findSimilar id threshold limit) (listJson "similarElements" elementJson)).1.status =
      200 := by
  obtain ⟨target, htarget⟩ := Option.isSome_iff_exists.mp hid
  have hget : s.onStore (·.get? id) = (.ok (some target), s) :=
    htarget ▸ hs.read fun t => t.get? id
  have hall : s.onStore (·.all) = (.ok s.store.written.all, s) := hs.read (·.all)
  have hfind : s.findSimilar id threshold limit =
      (.ok (Similarity.alike target threshold limit s.store.written.all), s) := by
    rw [findSimilar, hget, ok_andThen]
    dsimp only
    rw [hall, ok_andThen]
  rw [hfind]
  refine status_reply_listJson (fun e he => ?_) _
  obtain ⟨r, hr, rfl⟩ := Similarity.mem_of_mem_alike he
  exact elementJson_ok (hs.line_of_mem_all hr).one_le

theorem findPairs_of_answerable (hs : Answerable s) (threshold : Float) (limit : Int) :
    s.findPairs threshold limit =
      (((Similarity.closest threshold limit s.store.written.all).mapError .vectors).map fun pairs =>
        pairs.map fun p => ⟨p.score, (p.item.1.element, p.item.2.element)⟩, s) := by
  have hall : s.onStore (·.all) = (.ok s.store.written.all, s) := hs.read (·.all)
  rw [findPairs, hall, ok_andThen]

private theorem status_findPairs (hs : Answerable s) (threshold : Float) (limit : Int) :
    let status :=
      (reply (s.findPairs threshold limit) (listJson "pairs" pairJson)).1.status
    let records := s.store.written.all
    (status = 200 ∨ status = 500) ∧
      (status = 200 ↔ records.length < 2 ∨ ∀ r ∈ records, Vec.IsFinite r.vector) := by
  intro status records
  have hiff := Similarity.closest_ok_iff threshold limit records
  cases hclosest : Similarity.closest threshold limit records with
  | ok pairs =>
    have hstatus : status = 200 := by
      unfold status
      rw [findPairs_of_answerable hs, hclosest]
      refine status_reply_listJson (fun p hp => ?_) _
      obtain ⟨q, hq, rfl⟩ := List.mem_map.mp hp
      obtain ⟨hfirst, hsecond⟩ := Similarity.mem_of_closest hclosest q hq
      exact pairJson_ok (hs.line_of_mem_all hfirst).one_le (hs.line_of_mem_all hsecond).one_le
    exact ⟨.inl hstatus, ⟨fun _ => hiff.mp ⟨pairs, hclosest⟩, fun _ => hstatus⟩⟩
  | error u =>
    have hstatus : status = 500 := by
      unfold status
      rw [findPairs_of_answerable hs, hclosest]
      rfl
    refine ⟨.inr hstatus, ⟨fun h => ?_, fun h => ?_⟩⟩
    · cases hstatus.symm.trans h
    · obtain ⟨pairs, hpairs⟩ := hiff.mpr h
      cases hclosest.symm.trans hpairs

end Replies

section Questions

variable [LT τ] [DecidableRel (α := τ) (· < ·)] [Add τ] {query : List (String × String)}
  {bound : Float × Int}

private theorem receive_pairs (hbound : bounds query = .ok bound) (s : Service Float τ) (moment : τ)
    (time : String) :
    s.receive ⟨moment, time, { method := .get, path := "/similar/all", query }⟩ =
      reply ({ s with now := moment }.findPairs bound.1 bound.2) (listJson "pairs" pairJson) := by
  rw [receive, respond, ofPath_pairs]
  simp [Route.allows, answer, checked, hbound]

private theorem receive_similar (hbound : bounds query = .ok bound) {id : String} (hid : IsName id)
    (s : Service Float τ) (moment : τ) (time : String) :
    s.receive ⟨moment, time, { method := .get, path := "/similar/" ++ id, query }⟩ =
      reply ({ s with now := moment }.findSimilar id bound.1 bound.2)
        (listJson "similarElements" elementJson) := by
  rw [receive, respond, ofPath_similar hid]
  simp [Route.allows, answer, checked, hbound]

/-- A service that started with an empty store answers the question for the closest pairs unless it
holds several records and one of them has a number that is not finite. It answers the question for
the elements that are like one that it has indexed and not wiped, whatever the provider replied. -/
theorem queries_after_requests {s₀ : Service Float τ} {ttl : τ}
    (hstore : s₀.store = Store.empty ttl) (hids : ∀ n, IsName (s₀.ids n))
    (visits : List (Visit τ)) (hbound : bounds query = .ok bound) (moment : τ) (time : String) :
    let s := s₀.serve visits
    let ask path := (s.receive ⟨moment, time, { method := .get, path, query }⟩).1.status
    let records := s.store.written.all
    ((ask "/similar/all" = 200 ∨ ask "/similar/all" = 500) ∧
      (ask "/similar/all" = 200 ↔
        records.length < 2 ∨ ∀ r ∈ records, Vec.IsFinite r.vector)) ∧
      ∀ before post after id, visits = before ++ post :: after →
        let reply := ((s₀.serve before).receive post).1
        post.request.method = .post → reply.status = 200 → id ∈ givenIds reply.body →
          (∀ v ∈ after, ¬ Wipes v.request) → ask ("/similar/" ++ id) = 200 := by
  intro s ask records
  have hs : Answerable { s with now := moment } :=
    (answerable_serve (.empty hstore) visits).at_moment moment
  refine ⟨?_, ?_⟩
  · unfold ask
    rw [receive_pairs hbound]
    exact status_findPairs hs bound.1 bound.2
  · intro before post after id hvisits reply hmethod hstatus hid hwipe
    have hbefore : (s₀.serve before).store.Settled :=
      (answerable_serve (.empty hstore) before).settled
    obtain ⟨hrecord, n, rfl⟩ := isSome_get?_of_post hbefore hmethod hstatus hid hwipe
    rw [← serve_append, ← hvisits] at hrecord
    have hname : IsName ((s₀.serve before).ids n) :=
      ids_serve (Answerable.empty hstore).settled before ▸ hids n
    unfold ask
    rw [receive_similar hbound hname]
    exact status_findSimilar hs hrecord bound.1 bound.2

private def constantService (v : Vec Float) : Service Float Int where
  store := Store.empty 10
  embedder := ⟨some fun _ _ => .ok v, 100⟩
  ids := fun n => String.ofList (List.replicate (n + 1) 'i')
  now := 0

private def namedElement (name : String) : Request where
  method := .post
  path := "/elements"
  body := .json (.obj [("metadata", .obj [("filePath", .str "a.js"), ("lineNumber", .int 1),
    ("elementName", .str name)]), ("elementString", .str name)])

private def twoPosts : List (Visit Int) :=
  [⟨0, "", namedElement "f"⟩, ⟨1, "", namedElement "g"⟩]

private theorem isName_constantService (v : Vec Float) (n : Nat) :
    IsName ((constantService v).ids n) where
  ne_empty h := by
    have hlist := congrArg String.toList h
    simp [constantService] at hlist
  ne_all h := by
    have hlist := congrArg String.toList h
    simp [constantService, List.replicate_succ] at hlist
  no_slash := by simp [constantService]

/-- Two elements whose vectors are finite are compared, and each of them by its id. -/
theorem queries_after_requests_two :
    let s := (constantService [1, 2]).serve twoPosts
    let ask path :=
      (s.receive ⟨2, "", { method := .get, path, query := [("limit", "3")] }⟩).1.status
    s.store.written.all.length = 2 ∧ ask "/similar/all" = 200 ∧ ask "/similar/i" = 200 := by
  intro s ask
  have hids := isName_constantService [1, 2]
  obtain ⟨bound, hbound⟩ : ∃ b, bounds [("limit", "3")] = .ok b := ⟨_, rfl⟩
  have hqueries := queries_after_requests rfl hids twoPosts hbound 2 ""
  refine ⟨by decide +kernel, hqueries.1.2.mpr (.inr ?_), ?_⟩
  · decide +kernel
  · refine hqueries.2 [] _ [_] "i" rfl rfl (by decide +kernel) (by decide +kernel) ?_
    rintro v hv ⟨hdelete, -⟩
    obtain rfl := List.mem_singleton.mp hv
    cases hdelete

/-- A number that is none is stored like any other, and the closest pairs are then refused. -/
theorem pairs_refused_after_requests :
    let (first, s₁) := (constantService [0 / 0]).receive ⟨0, "", namedElement "f"⟩
    let (second, s₂) := s₁.receive ⟨1, "", namedElement "g"⟩
    let (pairs, _) := s₂.receive ⟨2, "", { method := .get, path := "/similar/all" }⟩
    first.status = 200 ∧ second.status = 200 ∧ pairs.status = 500 := by
  decide +kernel

end Questions

end CodeTwins.Service
