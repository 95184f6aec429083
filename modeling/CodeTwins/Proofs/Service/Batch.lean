import CodeTwins.Proofs.Service.Assignment
import CodeTwins.Proofs.Service.Basic

/-!
# Indexing a list of elements

A list is indexed as a whole or not at all. What stands in the way is the reason that is given, and it
is met before the first write. The exception is an element that cannot be written: it is met when the
records are made, and then the new vectors are in the cache.
-/
namespace CodeTwins.Service

open CodeTwins.Embedding Store

variable {α τ : Type}

/-- The records made of ids, elements and vectors. -/
def recordsOf (ids : List String) (es : List Element) (vs : List (Vec α)) :
    List (Record Element (Vec α)) :=
  (ids.zip (es.zip vs)).map fun (id, e, v) => ⟨id, e, v⟩

theorem recordsOf_parts {ids : List String} {es : List Element} {vs : List (Vec α)}
    (hids : ids.length = es.length) (hvs : vs.length = es.length) :
    (recordsOf ids es vs).map (·.id) = ids ∧ (recordsOf ids es vs).map (·.element) = es ∧
      (recordsOf ids es vs).map (·.vector) = vs := by
  have hpairs : ids.length = (es.zip vs).length := by simp [hids, hvs]
  refine ⟨?_, ?_, ?_⟩ <;> rw [recordsOf, List.map_map]
  · exact List.map_fst_zip (Nat.le_of_eq hpairs)
  · have hmap := congrArg (List.map Prod.fst) (List.map_snd_zip (Nat.le_of_eq hpairs.symm))
    rw [List.map_map, List.map_fst_zip (Nat.le_of_eq hvs.symm)] at hmap
    exact hmap
  · have hmap := congrArg (List.map Prod.snd) (List.map_snd_zip (Nat.le_of_eq hpairs.symm))
    rw [List.map_map, List.map_snd_zip (Nat.le_of_eq hvs)] at hmap
    exact hmap

theorem mem_recordsOf {ids : List String} {es : List Element} {vs : List (Vec α)}
    {r : Record Element (Vec α)} (h : r ∈ recordsOf ids es vs) :
    (r.element, r.vector) ∈ es.zip vs := by
  obtain ⟨⟨id, e, v⟩, hrow, rfl⟩ := List.mem_map.mp h
  exact (List.of_mem_zip hrow).2

theorem putAll_of_storeAll_ok {s s' : Service α τ} {es : List Element} {vs : List (Vec α)}
    {ids : List String} (h : s.storeAll es vs = (.ok ids, s')) :
    ids = s.nextIds es.length ∧ (∀ e ∈ es, e.Writable) ∧ ∃ store,
      s.store.putAll (recordsOf ids es vs) = (.ok (), store) ∧
      s' = { s with store := store, drawn := s.drawn + es.length } := by
  unfold storeAll at h
  cases hencode : es.mapM Element.encode with
  | error m =>
    rw [hencode] at h
    cases h
  | ok js =>
    rw [hencode] at h
    obtain ⟨⟨⟩, s₁, hwrite, hnext⟩ := andThen_ok h
    obtain ⟨store, hput, rfl⟩ := onStore_ok hwrite
    cases hnext
    exact ⟨rfl, (Element.mapM_encode_eq_ok_iff.mp hencode).1, store, hput, rfl⟩

private theorem storeAll_ok {s s' : Service α τ} {es : List Element} {vs : List (Vec α)}
    {ids : List String} (h : s.storeAll es vs = (.ok ids, s')) :
    (∀ e ∈ es, e.Writable) ∧ ids = s.nextIds es.length ∧ ∃ store,
      s' = { s with store := store, drawn := s.drawn + es.length } ∧
      store.written = s.store.written.putAll (recordsOf ids es vs) ∧
      store.setup = s.store.setup := by
  obtain ⟨rfl, hes, store, hput, rfl⟩ := putAll_of_storeAll_ok h
  refine ⟨hes, rfl, store, rfl, putAll_ok hput, ?_⟩
  rw [← setup_putAll s.store (recordsOf (s.nextIds es.length) es vs)]
  exact congrArg (fun answer => answer.2.setup) hput.symm

private theorem storeAll_error {s s' : Service α τ} {es : List Element} {vs : List (Vec α)}
    {f : Failure} (h : s.storeAll es vs = (.error f, s')) :
    ((f = .unwritable (.tooManyDigits none) ∧ ∃ e ∈ es, ¬ e.Writable) ∨
      f = .store .closed ∧ s.store.isOpen = false) ∧
      s' = { s with drawn := s.drawn + es.length } := by
  unfold storeAll at h
  cases hencode : es.mapM Element.encode with
  | error m =>
    rw [hencode] at h
    cases h
    obtain ⟨hlong, rfl⟩ := Element.mapM_encode_eq_error_iff.mp hencode
    exact ⟨.inl ⟨rfl, hlong⟩, rfl⟩
  | ok js =>
    rw [hencode] at h
    rcases andThen_error h with hwrite | ⟨⟨⟩, s₁, hwrite, hnext⟩
    · obtain ⟨fault, store, hput, rfl, rfl⟩ := onStore_error hwrite
      obtain ⟨rfl, rfl, hclosed⟩ := putAll_error hput
      exact ⟨.inr ⟨rfl, hclosed⟩, rfl⟩
    · cases hnext

/-- The store is open and the line fits, for every cache key that an element has. -/
def KeysFit (s : Service α τ) (es : List Element) : Prop :=
  ∀ e ∈ es, ∀ key, e.metadata.cacheKey = some key →
    s.store.isOpen = true ∧ fits key.lineNumber = true

theorem KeysFit.missing {β : Type} {s : Service α τ} {es : List Element} (hfit : s.KeysFit es)
    {store : Store Element (Vec α) τ} (hsetup : store.setup = s.store.setup)
    (found : List (Option β)) :
    KeysFit { s with store := store } (Service.missing es found) := by
  intro e he key hkey
  obtain ⟨hopen, hfits⟩ := hfit e (mem_of_mem_missing he) key hkey
  exact ⟨(isOpen_of_setup hsetup).trans hopen, hfits⟩

theorem KeysFit.writable {s : Service α τ} {es : List Element} (hfit : s.KeysFit es) {e : Element}
    (he : e ∈ es) {key : CacheKey} (hkey : e.metadata.cacheKey = some key) : e.Writable :=
  writable_of_fits hkey (hfit e he key hkey).2

private theorem cacheAll_entries [Add τ] {s : Service α τ} {es : List Element} (hfit : s.KeysFit es)
    (vs : List (Vec α)) :
    ∃ store, s.store.cacheAll s.now (cacheEntries es vs) = (.ok (), store) ∧
      store.written =
        s.store.written.cacheAllUntil (s.now + s.store.ttl) (cacheEntries es vs) ∧
      store.setup = s.store.setup := by
  have hentries : ∀ entry ∈ cacheEntries es vs,
      s.store.isOpen = true ∧ fits entry.1.lineNumber = true := by
    intro entry hentry
    obtain ⟨e, he, hkey⟩ := key_of_mem_cacheEntries hentry
    exact hfit e he entry.1 hkey
  obtain ⟨store, hcache, hwritten⟩ := cacheAll_of_fits s.now hentries
  have hsetup := setup_cacheAll s.store s.now (cacheEntries es vs)
  rw [hcache] at hsetup
  exact ⟨store, hcache, hwritten, hsetup⟩

variable [Scalar α]

section EmbedAll

variable [Add τ] {s s' : Service α τ} {es : List Element}

theorem embedAll_ok {vs : List (Vec α)} (hfit : s.KeysFit es)
    (h : s.embedAll es = (.ok vs, s')) :
    ∃ store asked, s.embedder.embedEach s.asked (es.map (·.text)) = (.ok vs, asked) ∧
      s' = { s with store := store, asked := asked } ∧
      store.written =
        s.store.written.cacheAllUntil (s.now + s.store.ttl) (cacheEntries es vs) ∧
      store.setup = s.store.setup := by
  unfold embedAll at h
  split at h
  case isTrue hempty =>
    cases h
    rw [List.isEmpty_iff.mp hempty]
    exact ⟨s.store, s.asked, rfl, rfl, rfl, rfl⟩
  case isFalse hes =>
    obtain ⟨vectors, s₁, hask, h⟩ := andThen_ok h
    obtain ⟨asked, hembed, rfl⟩ := onEmbedder_ok hask
    obtain ⟨⟨⟩, s₂, hwrite, hnext⟩ := andThen_ok h
    obtain ⟨store, hcache, rfl⟩ := onStore_ok hwrite
    cases hnext
    obtain ⟨store', hcache', hwritten, hsetup⟩ := cacheAll_entries hfit vs
    obtain rfl : store' = store := congrArg Prod.snd (hcache'.symm.trans hcache)
    rw [Embedder.embedBatch_eq_embedEach s.asked (by simpa using hes)] at hembed
    exact ⟨store', asked, hembed, rfl, hwritten, hsetup⟩

/-- New vectors are missing only because the embedder fails. -/
theorem embedAll_error {f : Failure} (hfit : s.KeysFit es)
    (h : s.embedAll es = (.error f, s')) :
    ∃ error asked, s.embedder.embedEach s.asked (es.map (·.text)) = (.error error, asked) ∧
      f = .embedding error ∧ s' = { s with asked := asked } := by
  unfold embedAll at h
  split at h
  · cases h
  case isFalse hes =>
    rcases andThen_error h with hask | ⟨vectors, s₁, hask, h⟩
    · obtain ⟨error, asked, hembed, rfl, rfl⟩ := onEmbedder_error hask
      rw [Embedder.embedBatch_eq_embedEach s.asked (by simpa using hes)] at hembed
      exact ⟨error, asked, hembed, rfl, rfl⟩
    · obtain ⟨asked, hembed, rfl⟩ := onEmbedder_ok hask
      rcases andThen_error h with hwrite | ⟨⟨⟩, s₂, hwrite, hnext⟩
      · obtain ⟨fault, store, hcache, rfl, rfl⟩ := onStore_error hwrite
        obtain ⟨store', hcache', -⟩ := cacheAll_entries hfit vectors
        cases congrArg Prod.fst (hcache'.symm.trans hcache)
      · cases hnext

end EmbedAll

variable [LT τ] [DecidableRel (α := τ) (· < ·)]

/-- The live vector in the cache for an element. -/
def live? (s : Service α τ) (e : Element) : Option (Vec α) :=
  e.metadata.cacheKey.bind (s.store.written.cached? s.now)

/-- What stands in the way of indexing a list of elements: a text that is missing, a store that is
closed, a line that the tables cannot hold, the first vector that the embedder fails to give, or an
element without a cache key that cannot be written. -/
inductive Obstacle (s : Service α τ) (es : List Element) : Failure → Prop where
  | noText {i : Nat} {e : Element} (he : es[i]? = some e) (htext : e.text = "")
      (hbefore : ∀ e' ∈ es.take i, e'.text ≠ "") : Obstacle s es (.noText (some i))
  | closed (hclosed : s.store.isOpen = false) : Obstacle s es (.store .closed)
  | lineTooLarge {e : Element} {key : CacheKey} (he : e ∈ es)
      (hkey : e.metadata.cacheKey = some key) (hlarge : fits key.lineNumber = false) :
      Obstacle s es (.store .lineTooLarge)
  | noVector {before after : List Element} {e : Element} {vs : List (Vec α)}
      {asked : List String} {error : Error} (hes : es = before ++ e :: after)
      (hbefore : Assigned s.embedder s.live? s.asked before vs asked) (hlive : s.live? e = none)
      (hfail : (s.embedder.embed asked e.text).1 = .error error) :
      Obstacle s es (.embedding error)
  | unwritable {e : Element} (he : e ∈ es) (hkey : e.metadata.cacheKey = none)
      (hlong : ¬ e.Writable) : Obstacle s es (.unwritable (.tooManyDigits none))

/-- The tables that a failure leaves: those from before, unless elements cannot be written. By then the
vectors of all elements are known, and the new ones are in the cache. -/
inductive Leaves [Add τ] (s : Service α τ) (es : List Element) (asked : List String) :
    Failure → Tables Element (Vec α) τ → Prop where
  | same {f : Failure} (hf : ∀ m, f ≠ .unwritable m) : Leaves s es asked f s.store.written
  | cached {m : Misfit} {vs : List (Vec α)} (htexts : ∀ e ∈ es, e.text ≠ "") (hfit : s.KeysFit es)
      (hassigned : Assigned s.embedder s.live? s.asked es vs asked) :
      Leaves s es asked (.unwritable m)
        (s.store.written.cacheAllUntil (s.now + s.store.ttl) (newEntries s.live? es vs))

section IndexBatch

variable {s s' : Service α τ} {es : List Element}

omit [Scalar α] in
theorem lookup_ok {found : List (Option (Vec α))}
    (h : s.onStore (·.cachedAll s.now (es.map (·.metadata.cacheKey))) = (.ok found, s')) :
    found = es.map s.live? ∧ s.KeysFit es ∧ ∃ store, s' = { s with store := store } ∧
      store.written = s.store.written ∧ store.setup = s.store.setup := by
  obtain ⟨store, hlookup, rfl⟩ := onStore_ok h
  obtain ⟨rfl, hwritten, hkeys⟩ := cachedAll_ok hlookup
  have hsetup := setup_cachedAll s.store s.now (es.map (·.metadata.cacheKey))
  rw [hlookup] at hsetup
  refine ⟨by simp [live?, Function.comp_def], ?_, store, rfl, hwritten, hsetup⟩
  intro e he key hkey
  exact hkeys key (hkey ▸ List.mem_map_of_mem he)

private theorem lookup_error {f : Failure}
    (h : s.onStore (·.cachedAll s.now (es.map (·.metadata.cacheKey))) = (.error f, s')) :
    s.Obstacle es f ∧ (∃ fault, f = .store fault) ∧ s' = s := by
  obtain ⟨fault, store, hlookup, rfl, rfl⟩ := onStore_error h
  obtain ⟨rfl, ⟨rfl, hclosed⟩ | ⟨rfl, key, hkey, hlarge⟩⟩ := cachedAll_error hlookup
  · exact ⟨.closed hclosed, ⟨_, rfl⟩, rfl⟩
  · obtain ⟨e, he, hkey⟩ := List.mem_map.mp hkey
    exact ⟨.lineTooLarge he hkey hlarge, ⟨_, rfl⟩, rfl⟩

private theorem texts_of_findIdx? (h : es.findIdx? (·.text.isEmpty) = none) :
    ∀ e ∈ es, e.text ≠ "" := by
  intro e he htext
  have hall := List.findIdx?_eq_none_iff.mp h e he
  rw [htext] at hall
  cases hall

private theorem noText_of_findIdx? {i : Nat} (h : es.findIdx? (·.text.isEmpty) = some i) :
    ∃ e, es[i]? = some e ∧ e.text = "" ∧ ∀ e' ∈ es.take i, e'.text ≠ "" := by
  obtain ⟨hi, hempty, hbefore⟩ := List.findIdx?_eq_some_iff_getElem.mp h
  refine ⟨es[i], List.getElem?_eq_getElem hi, by simpa using hempty, ?_⟩
  intro e' he' htext
  obtain ⟨j, hj, rfl⟩ := List.getElem_of_mem he'
  rw [List.getElem_take] at htext
  have hji : j < i := by
    rw [List.length_take] at hj
    omega
  exact hbefore j hji (by simp [htext])

variable [Add τ]

theorem indexBatch_ok {ids : List String} (h : s.indexBatch es = (.ok ids, s')) :
    ids = s.nextIds es.length ∧ ((∀ e ∈ es, e.text ≠ "" ∧ e.Writable) ∧ s.KeysFit es) ∧
      ∃ vs store asked,
      s' = { s with store := store, asked := asked, drawn := s.drawn + es.length } ∧
      Assigned s.embedder s.live? s.asked es vs asked ∧
      store.written =
        (s.store.written.cacheAllUntil (s.now + s.store.ttl) (newEntries s.live? es vs)).putAll
          (recordsOf ids es vs) ∧
      store.setup = s.store.setup := by
  unfold indexBatch at h
  split at h
  · cases h
  case h_2 htexts =>
    split at h
    case isTrue hempty =>
      cases h
      rw [List.isEmpty_iff.mp hempty]
      exact ⟨rfl, ⟨by simp, by simp [KeysFit]⟩, [], s.store, s.asked, rfl, .nil, rfl, rfl⟩
    case isFalse =>
      obtain ⟨found, s₁, hlookup, h⟩ := andThen_ok h
      obtain ⟨rfl, hfit, store₁, rfl, hwritten₁, hsetup₁⟩ := lookup_ok hlookup
      obtain ⟨fresh, s₂, hnew, h⟩ := andThen_ok h
      obtain ⟨store₂, asked, hembed, rfl, hwritten₂, hsetup₂⟩ :=
        embedAll_ok (hfit.missing hsetup₁ _) hnew
      obtain ⟨hassigned, hentries⟩ := assigned_of_embedEach hembed
      obtain ⟨hwritable, rfl, store₃, rfl, hwritten₃, hsetup₃⟩ := storeAll_ok h
      have hgood : ∀ e ∈ es, e.text ≠ "" ∧ e.Writable :=
        fun e he => ⟨texts_of_findIdx? htexts e he, hwritable e he⟩
      refine ⟨rfl, ⟨hgood, hfit⟩, _, store₃, asked, rfl, hassigned, ?_,
        hsetup₃.trans (hsetup₂.trans hsetup₁)⟩
      rw [hwritten₃, hwritten₂, hentries, hwritten₁, ttl_of_setup hsetup₁]

theorem indexBatch_error {f : Failure} (h : s.indexBatch es = (.error f, s')) :
    s.Obstacle es f ∧ ∃ store asked drawn,
      s' = { s with store := store, asked := asked, drawn := drawn } ∧ s.drawn ≤ drawn ∧
      s.Leaves es asked f store.written ∧ store.setup = s.store.setup := by
  unfold indexBatch at h
  split at h
  case h_1 i hi =>
    cases h
    obtain ⟨e, he, htext, hbefore⟩ := noText_of_findIdx? hi
    exact ⟨.noText he htext hbefore, s.store, s.asked, s.drawn, rfl, Nat.le_refl _, .same nofun, rfl⟩
  case h_2 htexts =>
    split at h
    · cases h
    · rcases andThen_error h with hlookup | ⟨found, s₁, hlookup, h⟩
      · obtain ⟨hobstacle, ⟨fault, rfl⟩, rfl⟩ := lookup_error hlookup
        exact ⟨hobstacle, s'.store, s'.asked, s'.drawn, rfl, Nat.le_refl _, .same nofun, rfl⟩
      obtain ⟨rfl, hfit, store₁, rfl, hwritten₁, hsetup₁⟩ := lookup_ok hlookup
      rcases andThen_error h with hnew | ⟨fresh, s₂, hnew, h⟩
      · obtain ⟨error, asked, hembed, rfl, rfl⟩ := embedAll_error (hfit.missing hsetup₁ _) hnew
        obtain ⟨before, e, after, vs, asked₁, hes, hbefore, hlive, hfail⟩ :=
          unassigned_of_embedEach hembed
        exact ⟨.noVector hes hbefore hlive hfail, store₁, asked, s.drawn, rfl, Nat.le_refl _,
          hwritten₁ ▸ .same nofun, hsetup₁⟩
      obtain ⟨store₂, asked, hembed, rfl, hwritten₂, hsetup₂⟩ :=
        embedAll_ok (hfit.missing hsetup₁ _) hnew
      obtain ⟨⟨rfl, e, he, hlong⟩ | ⟨rfl, hclosed⟩, rfl⟩ := storeAll_error h
      · obtain ⟨hassigned, hentries⟩ := assigned_of_embedEach hembed
        have hkey : e.metadata.cacheKey = none :=
          Option.eq_none_iff_forall_ne_some.mpr fun key hkey => hlong (hfit.writable he hkey)
        refine ⟨.unwritable he hkey hlong, store₂, asked, s.drawn + es.length, rfl,
          Nat.le_add_right _ _, ?_, hsetup₂.trans hsetup₁⟩
        rw [hwritten₂, hentries, hwritten₁, ttl_of_setup hsetup₁]
        exact .cached (texts_of_findIdx? htexts) hfit hassigned
      have hclosed₀ : s.store.isOpen = false :=
        (isOpen_of_setup (hsetup₂.trans hsetup₁)).symm.trans hclosed
      -- a store that is closed has answered the lookup only because no element has a key
      have hnone : cacheEntries (missing es (es.map s.live?)) fresh = [] := by
        refine List.eq_nil_iff_forall_not_mem.mpr fun entry hentry => ?_
        obtain ⟨e, he, hkey⟩ := key_of_mem_cacheEntries hentry
        have hopen := (hfit e (mem_of_mem_missing he) entry.1 hkey).1
        cases hclosed₀.symm.trans hopen
      rw [hnone] at hwritten₂
      exact ⟨.closed hclosed₀, store₂, asked, s.drawn + es.length, rfl, Nat.le_add_right _ _,
        (hwritten₂.trans hwritten₁) ▸ .same nofun, hsetup₂.trans hsetup₁⟩

theorem Leaves.records_eq {asked : List String} {f : Failure} {t : Tables Element (Vec α) τ}
    (h : s.Leaves es asked f t) :
    t.records = s.store.written.records ∧ t.ids = s.store.written.ids := by
  cases h with
  | same => exact ⟨rfl, rfl⟩
  | cached => exact ⟨Tables.records_cacheAllUntil _ _ _, Tables.ids_cacheAllUntil _ _ _⟩

/-- If all elements can be written, a failure leaves the tables as they were. -/
theorem Leaves.eq_of_writable {asked : List String} {f : Failure} {t : Tables Element (Vec α) τ}
    (h : s.Leaves es asked f t) (hobstacle : s.Obstacle es f) (hes : ∀ e ∈ es, e.Writable) :
    t = s.store.written := by
  cases h with
  | same => rfl
  | cached =>
    cases hobstacle with
    | unwritable he _ hlong => exact absurd (hes _ he) hlong

/-- An element that is indexed alone is recorded with the vector assigned to it. -/
theorem record_of_index {ids : List String} {e : Element}
    (h : s.indexBatch [e] = (.ok ids, s')) :
    ∃ v, Assigned s.embedder s.live? s.asked [e] [v] s'.asked ∧
      ∃ r ∈ s'.store.written.all, r.element = e ∧ r.vector = v := by
  obtain ⟨rfl, -, vs, store, asked, rfl, hassigned, hwritten, -⟩ := indexBatch_ok h
  obtain ⟨v, rfl⟩ := List.length_eq_one_iff.mp hassigned.length_eq
  refine ⟨v, hassigned, ⟨s.ids (s.drawn + 0), e, v⟩, ?_, rfl, rfl⟩
  rw [hwritten]
  exact Tables.mem_all_put _ _

/-- Nothing of its own keeps an element from being indexed: it has a text, the tables can hold the line
of its cache key, if it has one, and it can be written. -/
structure Indexable (e : Element) : Prop where
  text : e.text ≠ ""
  keyFits : ∀ key, e.metadata.cacheKey = some key → fits key.lineNumber = true
  writable : e.Writable

omit [Add τ] in
/-- If nothing of their own keeps elements from being indexed, and the embedder answers, then only a
closed store does. -/
theorem Obstacle.of_indexable {f : Failure} (h : s.Obstacle es f)
    (hembed : ∀ asked text, ∃ v, (s.embedder.embed asked text).1 = .ok v)
    (hes : ∀ e ∈ es, Indexable e) : f = .store .closed ∧ s.store.isOpen = false := by
  cases h with
  | noText he htext _ => exact absurd htext (hes _ (List.mem_of_getElem? he)).text
  | closed hclosed => exact ⟨rfl, hclosed⟩
  | lineTooLarge he hkey hlarge => cases hlarge.symm.trans ((hes _ he).keyFits _ hkey)
  | noVector _ _ _ hfail =>
    obtain ⟨v, hv⟩ := hembed _ _
    cases hfail.symm.trans hv
  | unwritable he _ hlong => exact absurd (hes _ he).writable hlong

/-- Without an obstacle, a list of elements is indexed. -/
theorem exists_indexBatch_ok (hopen : s.store.isOpen = true)
    (hembed : ∀ asked text, ∃ v, (s.embedder.embed asked text).1 = .ok v)
    (hes : ∀ e ∈ es, Indexable e) : ∃ ids s', s.indexBatch es = (.ok ids, s') := by
  rcases hrun : s.indexBatch es with ⟨result, s'⟩
  cases result with
  | ok ids => exact ⟨ids, s', rfl⟩
  | error f =>
    obtain ⟨-, hclosed⟩ := (indexBatch_error hrun).1.of_indexable hembed hes
    cases hclosed.symm.trans hopen

/-- A list of elements is indexed as a whole or not at all. If it is not, there is an obstacle, the
records and the ids are as before, and so is the cache, unless the obstacle is an element that cannot
be written: then the new vectors are in the cache. If it is, the new records come after all others, in
the order of the elements, each with a new id and with the vector that was cached for its element or
else the embedding of its text. -/
theorem indexBatch_all_or_nothing (s : Service α τ) (es : List Element) (hs : s.FreshIds) :
    match s.indexBatch es with
    | (.error f, s') => s.Obstacle es f ∧ s'.store.written.records = s.store.written.records ∧
        s'.store.written.ids = s.store.written.ids ∧ s.Leaves es s'.asked f s'.store.written
    | (.ok ids, s') => ids.length = es.length ∧ ids.Nodup ∧
        ∃ rs : List (Record Element (Vec α)),
          rs.map (·.id) = ids ∧ rs.map (·.element) = es ∧
          Assigned s.embedder s.live? s.asked es (rs.map (·.vector)) s'.asked ∧
          s'.store.all.1 = s.store.all.1.map (· ++ rs) := by
  rcases hrun : s.indexBatch es with ⟨result, s'⟩
  cases result with
  | error f =>
    obtain ⟨hobstacle, store, asked, drawn, rfl, -, hleaves, -⟩ := indexBatch_error hrun
    obtain ⟨hrecords, hids⟩ := hleaves.records_eq
    exact ⟨hobstacle, hrecords, hids, hleaves⟩
  | ok ids =>
    obtain ⟨rfl, -, vs, store, asked, rfl, hassigned, hwritten, hsetup⟩ := indexBatch_ok hrun
    have hlength := length_nextIds s es.length
    have hnodup := hs.nodup es.length
    obtain ⟨hids, helements, hvectors⟩ := recordsOf_parts hlength hassigned.length_eq
    refine ⟨hlength, hnodup, recordsOf (s.nextIds es.length) es vs, hids, helements, ?_, ?_⟩
    · rw [hvectors]
      exact hassigned
    have hnew : ∀ r ∈ recordsOf (s.nextIds es.length) es vs,
        r.id ∉ (s.store.written.cacheAllUntil (s.now + s.store.ttl)
          (newEntries s.live? es vs)).ids := by
      intro r hr
      rw [Tables.ids_cacheAllUntil]
      exact hs.not_mem (hids ▸ List.mem_map_of_mem hr)
    have hall : store.written.all = s.store.written.all ++ recordsOf (s.nextIds es.length) es vs := by
      rw [hwritten, Tables.all_putAll (hids.symm ▸ hnodup) hnew, Tables.all_cacheAllUntil]
    have hopen : store.isOpen = s.store.isOpen := isOpen_of_setup hsetup
    simp only [Store.all, transact, hopen]
    split
    · rw [hall]
      rfl
    · rfl

end IndexBatch

/-- Elements of a cached key, of one key that occurs twice, and of a file whose hash is unknown. -/
private def mixedElements : List Element :=
  let cached : Element := ⟨⟨"a.js", 1, "f", none, some "h", none⟩, "function f() {}"⟩
  let fresh : Element := ⟨⟨"a.js", 2, "g", none, some "h", none⟩, "function g() {}"⟩
  [cached, fresh, ⟨⟨"b.js", 1, "f", none, none, none⟩, "f"⟩, fresh]

private def mixedService : Service Float Int where
  store := ((Store.empty 10).cache 0 ⟨"h", "f", 1⟩ [9]).2
  embedder := ⟨some fun asked _ => .ok [Float.ofNat asked.length], 100⟩
  ids := fun n => String.ofList (List.replicate n 'a')
  now := 5

private theorem freshIds_mixedService : mixedService.FreshIds := by
  have hinjective : Function.Injective mixedService.ids := by
    intro m n h
    have hlength : (mixedService.ids m).length = (mixedService.ids n).length :=
      congrArg String.length h
    simpa [mixedService] using hlength
  exact ⟨hinjective, fun n _ => List.not_mem_nil⟩

theorem indexBatch_all_or_nothing_mixed :
    let s' := (mixedService.indexBatch mixedElements).2
    mixedService.FreshIds ∧
      (mixedService.indexBatch mixedElements).1 = .ok ["", "a", "aa", "aaa"] ∧
      (∃ rs : List (Record Element (Vec Float)),
        rs.map (·.id) = ["", "a", "aa", "aaa"] ∧ rs.map (·.element) = mixedElements ∧
          s'.store.all.1 = .ok rs) ∧
      s'.store.all.1.map (·.map (·.vector)) =
        .ok [[9], [Float.ofNat 0], [Float.ofNat 1], [Float.ofNat 2]] := by
  intro s'
  have hs : mixedService.FreshIds := freshIds_mixedService
  have hids : (mixedService.indexBatch mixedElements).1 = .ok ["", "a", "aa", "aaa"] := rfl
  have hrun : mixedService.indexBatch mixedElements = (.ok ["", "a", "aa", "aaa"], s') :=
    Prod.ext hids rfl
  have hbatch := indexBatch_all_or_nothing mixedService mixedElements hs
  rw [hrun] at hbatch
  obtain ⟨-, -, rs, hrs, helements, -, hall⟩ := hbatch
  exact ⟨hs, hids, ⟨rs, hrs, helements, hall⟩, rfl⟩

/-- A list with an element that cannot be written leaves no record, but the vector of the element
before it is in the cache. -/
theorem indexBatch_caches_before_unwritten :
    let es : List Element := [⟨⟨"a.js", 2, "g", none, some "h", none⟩, "function g() {}"⟩,
      ⟨⟨"b.js", 10 ^ Numeral.maxDigits, "f", none, none, none⟩, "f"⟩]
    let s' := (mixedService.indexBatch es).2
    mixedService.FreshIds ∧
      (mixedService.indexBatch es).1 = .error (.unwritable (.tooManyDigits none)) ∧
      s'.store.all.1.map List.length = .ok 0 ∧
      mixedService.store.written.cache.map (·.key) = [⟨"h", "f", 1⟩] ∧
      s'.store.written.cache.map (·.key) = [⟨"h", "f", 1⟩, ⟨"h", "g", 2⟩] := by
  intro es s'
  exact ⟨freshIds_mixedService, by decide +kernel, by decide +kernel, rfl, by decide +kernel⟩

end CodeTwins.Service
