import CodeTwins.Proofs.Service.Run

/-!
# Vectors that are held

Every vector that a service comes to hold, in a record or in the cache, is the embedding of the text
of an element that was indexed. With a provider that keeps to one length it has that length, unless
the text is left without chunks: then it is empty.
-/
namespace CodeTwins.Service

open CodeTwins.Embedding Store

variable {α τ : Type}

/-- The elements that an action indexes. -/
def Action.elements : Action τ → List Element
  | index e => [e]
  | indexBatch es => es
  | deleteAll => []
  | purge => []
  | wait _ => []

/-- The vectors of all records and of all entries of the cache. -/
def vectors (s : Service α τ) : List (Vec α) :=
  s.store.written.records.map (·.vector) ++ s.store.written.cache.map (·.vector)

/-- The line of the element's cache key, if it has one, fits into the tables. -/
def KeyFits (e : Element) : Prop :=
  ∀ key, e.metadata.cacheKey = some key → fits key.lineNumber = true

section Vectors

variable {s : Service α τ} {v : Vec α}

private theorem mem_vectors :
    v ∈ s.vectors ↔ (∃ r ∈ s.store.written.records, r.vector = v) ∨
      ∃ entry ∈ s.store.written.cache, entry.vector = v := by
  simp [vectors]

private theorem vectors_empty {ttl : τ} (hstore : s.store = Store.empty ttl) : s.vectors = [] := by
  rw [vectors, hstore]
  rfl

private theorem mem_vectors_of_transact {β : Type}
    {f : Tables Element (Vec α) τ → Tables Element (Vec α) τ × β}
    (hrecords : ∀ t, ∀ r ∈ (f t).1.records, r ∈ t.records)
    (hcache : ∀ t, ∀ entry ∈ (f t).1.cache, entry ∈ t.cache)
    (hv : v ∈ (s.onStore (·.transact f)).2.vectors) : v ∈ s.vectors := by
  obtain ⟨hrecord, hentry⟩ := mem_of_mem_transact (s := s.store) hrecords hcache
  obtain ⟨r, hr, rfl⟩ | ⟨entry, he, rfl⟩ := mem_vectors.mp hv
  · exact mem_vectors.mpr (.inl ⟨r, hrecord r hr, rfl⟩)
  · exact mem_vectors.mpr (.inr ⟨entry, hentry entry he, rfl⟩)

private theorem mem_vectors_of_live [LT τ] [DecidableRel (α := τ) (· < ·)] {e : Element}
    (hlive : s.live? e = some v) : v ∈ s.vectors := by
  obtain ⟨key, -, hcached⟩ := Option.bind_eq_some_iff.mp hlive
  obtain ⟨entry, hfind, rfl⟩ := Option.map_eq_some_iff.mp hcached
  exact mem_vectors.mpr (.inr ⟨entry, List.mem_of_find?_eq_some hfind, rfl⟩)

end Vectors

variable [Scalar α] [LT τ] [DecidableRel (α := τ) (· < ·)] [Add τ]

/-- The vector is an embedding of the text of one of the elements, which can be written and whose line
fits. -/
def EmbeddingOf (embedder : Embedder α) (es : List Element) (v : Vec α) : Prop :=
  ∃ e ∈ es, (KeyFits e ∧ e.Writable) ∧ ∃ asked, (embedder.embed asked e.text).1 = .ok v

section Steps

variable {s : Service α τ} {v : Vec α}

private theorem embedder_indexBatch (s : Service α τ) (es : List Element) :
    (s.indexBatch es).2.embedder = s.embedder := by
  rcases hrun : s.indexBatch es with ⟨result, s'⟩
  cases result with
  | error f =>
    obtain ⟨-, store, asked, drawn, rfl, -⟩ := indexBatch_error hrun
    rfl
  | ok ids =>
    obtain ⟨-, -, vs, store, asked, rfl, -⟩ := indexBatch_ok hrun
    rfl

omit [Add τ] in
private theorem held_or_embedded {es : List Element} {vs : List (Vec α)} {asked : List String}
    (hfit : s.KeysFit es) (hassigned : Assigned s.embedder s.live? s.asked es vs asked)
    {e : Element} (hpair : (e, v) ∈ es.zip vs) (hwritable : e.Writable) :
    v ∈ s.vectors ∨ EmbeddingOf s.embedder es v := by
  have he : e ∈ es := (List.of_mem_zip hpair).1
  rcases hassigned.live_or_embedded hpair with hlive | hembed
  · exact .inl (mem_vectors_of_live hlive)
  · exact .inr ⟨e, he, ⟨fun key hkey => (hfit e he key hkey).2, hwritable⟩, hembed⟩

omit [Add τ] in
/-- A vector in the cache was held before, or is new there. -/
theorem held_of_mem_cache {es : List Element} {vs : List (Vec α)} {asked : List String}
    (hfit : s.KeysFit es) (hassigned : Assigned s.embedder s.live? s.asked es vs asked)
    {expires : τ} {entry : Entry (Vec α) τ}
    (hentry : entry ∈
      (s.store.written.cacheAllUntil expires (newEntries s.live? es vs)).cache) :
    entry.vector ∈ s.vectors ∨ EmbeddingOf s.embedder es entry.vector := by
  rcases Tables.mem_cache_cacheAllUntil hentry with hold | ⟨hentry, -⟩
  · exact .inl (mem_vectors.mpr (.inr ⟨entry, hold, rfl⟩))
  · obtain ⟨e, hpair, hkey⟩ := mem_newEntries hentry
    exact held_or_embedded hfit hassigned hpair
      (hfit.writable (List.of_mem_zip hpair).1 hkey)

private theorem mem_vectors_indexBatch {es : List Element} (hv : v ∈ (s.indexBatch es).2.vectors) :
    v ∈ s.vectors ∨ EmbeddingOf s.embedder es v := by
  rcases hrun : s.indexBatch es with ⟨result, s'⟩
  rw [hrun] at hv
  cases result with
  | error f =>
    obtain ⟨-, store, asked, drawn, rfl, -, hleaves, -⟩ := indexBatch_error hrun
    rw [mem_vectors] at hv
    generalize store.written = t at hleaves hv
    cases hleaves with
    | same => exact .inl (mem_vectors.mpr hv)
    | cached _ hfit hassigned =>
      rw [Tables.records_cacheAllUntil] at hv
      obtain hrecord | ⟨entry, hentry, rfl⟩ := hv
      · exact .inl (mem_vectors.mpr (.inl hrecord))
      · exact held_of_mem_cache hfit hassigned hentry
  | ok ids =>
    obtain ⟨-, ⟨hes, hfit⟩, vs, store, asked, rfl, hassigned, hwritten, -⟩ := indexBatch_ok hrun
    rw [mem_vectors, hwritten, Tables.cache_putAll] at hv
    obtain ⟨r, hr, rfl⟩ | ⟨entry, hentry, rfl⟩ := hv
    · rcases Tables.mem_records_putAll hr with hold | hr
      · rw [Tables.records_cacheAllUntil] at hold
        exact .inl (mem_vectors.mpr (.inl ⟨r, hold, rfl⟩))
      · have hpair := mem_recordsOf hr
        exact held_or_embedded hfit hassigned hpair (hes _ (List.of_mem_zip hpair).1).2
    · exact held_of_mem_cache hfit hassigned hentry

theorem embedder_perform (s : Service α τ) (action : Action τ) :
    (s.perform action).embedder = s.embedder := by
  cases action with
  | index e =>
    rw [perform_index]
    exact embedder_indexBatch s [e]
  | indexBatch es => exact embedder_indexBatch s es
  | deleteAll => rfl
  | purge => rfl
  | wait d => rfl

private theorem mem_vectors_perform {action : Action τ} (hv : v ∈ (s.perform action).vectors) :
    v ∈ s.vectors ∨ EmbeddingOf s.embedder action.elements v := by
  cases action with
  | index e =>
    rw [perform_index] at hv
    exact mem_vectors_indexBatch hv
  | indexBatch es => exact mem_vectors_indexBatch hv
  | deleteAll =>
    exact .inl <| mem_vectors_of_transact (fun t r hr => (List.mem_filter.mp hr).1)
      (fun t entry hentry => hentry) hv
  | purge =>
    exact .inl <| mem_vectors_of_transact (fun t r hr => hr)
      (fun t entry hentry => (List.mem_filter.mp hentry).1) hv
  | wait d => exact .inl hv

/-- A vector that is held after a run was held before it, or is an embedding of an element. -/
theorem mem_vectors_run {actions : List (Action τ)} (hv : v ∈ (s.run actions).vectors) :
    v ∈ s.vectors ∨ EmbeddingOf s.embedder (actions.flatMap Action.elements) v := by
  induction actions generalizing s with
  | nil => exact .inl hv
  | cons action actions ih =>
    rw [List.flatMap_cons]
    rcases ih hv with hfirst | ⟨e, he, hembed⟩
    · rcases mem_vectors_perform hfirst with hbefore | ⟨e, he, hembed⟩
      · exact .inl hbefore
      · exact .inr ⟨e, List.mem_append_left _ he, hembed⟩
    · rw [embedder_perform] at hembed
      exact .inr ⟨e, List.mem_append_right _ he, hembed⟩

private theorem embeddingOf_of_mem_run {ttl : τ} (hstore : s.store = Store.empty ttl)
    {actions : List (Action τ)} (hv : v ∈ (s.run actions).vectors) :
    EmbeddingOf s.embedder (actions.flatMap Action.elements) v := by
  rcases mem_vectors_run hv with hbefore | hembed
  · rw [vectors_empty hstore] at hbefore
    cases hbefore
  · exact hembed

private theorem exists_mem_vectors_index {ttl : τ} (hstore : s.store = Store.empty ttl)
    (hembed : ∀ asked text, ∃ v, (s.embedder.embed asked text).1 = .ok v) {e : Element}
    (he : Indexable e) :
    ∃ v ∈ (s.run [.index e]).vectors, ∃ asked, (s.embedder.embed asked e.text).1 = .ok v := by
  obtain ⟨ids, s', hindex⟩ : ∃ ids s', s.indexBatch [e] = (.ok ids, s') :=
    exists_indexBatch_ok (hstore ▸ rfl) hembed (List.forall_mem_singleton.mpr he)
  have hrun : s.run [.index e] = s' := by
    rw [run_cons, run_nil, perform_index, perform, hindex]
  obtain ⟨v, -, r, hr, -, rfl⟩ := record_of_index hindex
  have hv : r.vector ∈ (s.run [.index e]).vectors :=
    mem_vectors.mpr (.inl ⟨r, hrun ▸ Tables.mem_records_of_mem_all hr, rfl⟩)
  obtain ⟨e', he', -, hembed'⟩ := embeddingOf_of_mem_run hstore hv
  obtain rfl : e' = e := by simpa [Action.elements] using he'
  exact ⟨r.vector, hv, hembed'⟩

end Steps

/-- With a provider that keeps to one length, every vector that is held has this length or is empty,
and for elements of some kind it has this length if and only if none of the kind that can be written
and whose line fits has a text that is longer than the limit and nothing but white space. -/
theorem lengths_of_run {provider : Provider α} {d : Nat} (hd : 0 < d)
    (hprovider : KeepsLength provider d) {limit : Nat} {ttl : τ} {s : Service α τ}
    (hstore : s.store = Store.empty ttl) (hembedder : s.embedder = ⟨some provider, limit⟩) :
    (∀ actions : List (Action τ), ∀ v ∈ (s.run actions).vectors, v.length = d ∨ v = []) ∧
      ∀ kind : Element → Prop,
        (∀ actions : List (Action τ), (∀ e ∈ actions.flatMap Action.elements, kind e) →
          ∀ v ∈ (s.run actions).vectors, v.length = d) ↔
        ∀ e, kind e → KeyFits e → e.Writable →
          ¬ (limit < e.text.toList.length ∧ isBlank e.text.toList = true) := by
  have hlength : ∀ {asked text v}, (s.embedder.embed asked text).1 = .ok v →
      v.length = if chunks limit text = [] then 0 else d :=
    fun hv => length_of_embed hprovider (hembedder ▸ hv)
  refine ⟨fun actions v hv => ?_, fun kind => ⟨fun hruns e he hfits hwritable hblank => ?_, ?_⟩⟩
  · obtain ⟨e, -, -, asked, hembed⟩ := embeddingOf_of_mem_run hstore hv
    have hv := hlength hembed
    split at hv
    · exact .inr (List.length_eq_zero_iff.mp hv)
    · exact .inl hv
  · -- a blank element that is indexed first leaves an empty vector
    have hembed : ∀ asked text, ∃ v, (s.embedder.embed asked text).1 = .ok v := by
      intro asked text
      obtain ⟨v, asked', hv, -⟩ := embed_of_keepsLength hprovider limit asked text
      exact ⟨v, by rw [hembedder, hv]⟩
    have htext : e.text ≠ "" := by
      rintro hempty
      simp [hempty] at hblank
    obtain ⟨v, hv, asked, hvector⟩ :=
      exists_mem_vectors_index hstore hembed ⟨htext, hfits, hwritable⟩
    have hzero : v.length = 0 := by
      rw [hlength hvector, if_pos (chunks_eq_nil_iff.mpr hblank)]
    have hkept : v.length = d := hruns [.index e] (by simpa [Action.elements] using he) v hv
    omega
  · intro hkind actions hactions v hv
    obtain ⟨e, he, ⟨hfits, hwritable⟩, asked, hembed⟩ := embeddingOf_of_mem_run hstore hv
    have hchunks : chunks limit e.text ≠ [] := by
      rw [Ne, chunks_eq_nil_iff]
      exact hkind e (hactions e he) hfits hwritable
    rw [hlength hembed, if_neg hchunks]

private def pairService : Service Float Int where
  store := Store.empty 10
  embedder := ⟨some fun _ _ => .ok [1, 2], 100⟩
  ids := fun n => String.ofList (List.replicate n 'a')
  now := 0

private theorem keepsLength_two : KeepsLength (fun _ _ => .ok ([1, 2] : Vec Float)) 2 :=
  fun _ _ => ⟨_, rfl, rfl⟩

/-- Texts that are not longer than the limit are given two numbers each. -/
theorem lengths_of_run_two :
    let e : Element := ⟨⟨"a.js", 1, "f", none, some "h", none⟩, "function f(){}"⟩
    (pairService.run [.index e, .wait 20, .indexBatch [e, e]]).vectors.length = 4 ∧
      ∀ actions : List (Action Int),
        (∀ e ∈ actions.flatMap Action.elements, e.text.toList.length ≤ 100) →
          ∀ v ∈ (pairService.run actions).vectors, v.length = 2 := by
  intro e
  have hruns := (lengths_of_run (by decide) keepsLength_two (s := pairService) rfl rfl).2
    fun e => e.text.toList.length ≤ 100
  exact ⟨by decide +kernel, hruns.mpr fun e hshort _ _ hblank => Nat.not_lt.mpr hshort hblank.1⟩

/-- White space longer than the limit gets an empty vector, in its record and in the cache. -/
theorem lengths_of_run_blank :
    let e : Element :=
      ⟨⟨"a.js", 1, "f", none, some "h", none⟩, String.ofList (List.replicate 101 ' ')⟩
    KeepsLength (fun _ _ => .ok ([1, 2] : Vec Float)) 2 ∧
      (pairService.run [.index e]).vectors.map List.length = [0, 0] := by
  intro e
  exact ⟨keepsLength_two, by decide +kernel⟩

end CodeTwins.Service
