import CodeTwins.Proofs.Element.Extraction
import CodeTwins.Language
import CodeTwins.Proofs.Service.Run
import CodeTwins.Proofs.Vector.Exact
import Mathlib.Algebra.Order.Group.Defs

/-!
# Vectors of one's own

A vector in the cache is found by the hash of a file, a name and a line. Two elements of a file may
have these in common and differ in their texts, and then the one that is indexed later may get the
vector of the other. Where the embeddings of such elements agree, and only there, every record has
the embedding of the text of its own element.
-/
namespace CodeTwins.Service

open CodeTwins.Embedding Store

variable {α τ : Type}

variable [AddCommGroup τ] [LinearOrder τ]

/-- The action is about elements of a list only, and time does not go back. -/
def Action.Over (es : List Element) : Action τ → Prop
  | index e => e ∈ es
  | indexBatch batch => ∀ e ∈ batch, e ∈ es
  | deleteAll => True
  | purge => True
  | wait d => 0 ≤ d

/-- A service whose records have vectors of their own, and whose cache has vectors of elements of a
list that last no longer than the store keeps new ones. -/
structure OwnVectors (embedder : Embedder α) (own : String → Vec α) (ttl : τ) (es : List Element)
    (s : Service α τ) : Prop where
  sameEmbedder : s.embedder = embedder
  sameTtl : s.store.ttl = ttl
  record : ∀ r ∈ s.store.written.records, r.vector = own r.element.text
  entry : ∀ entry ∈ s.store.written.cache, fits entry.key.lineNumber = true ∧
    ∃ e ∈ es, e.metadata.cacheKey = some entry.key ∧ entry.vector = own e.text
  expires : ∀ entry ∈ s.store.written.cache, entry.expires ≤ s.now + ttl

namespace OwnVectors

variable {embedder : Embedder α} {own : String → Vec α} {ttl : τ} {es : List Element}
  {s : Service α τ}

private theorem empty (hembedder : s.embedder = embedder) (hstore : s.store = Store.empty ttl) :
    OwnVectors embedder own ttl es s := by
  have httl : s.store.ttl = ttl := hstore ▸ rfl
  have hwritten : s.store.written = {} := hstore ▸ rfl
  refine ⟨hembedder, httl, ?_, ?_, ?_⟩ <;> rw [hwritten] <;> exact fun _ h => nomatch h

private theorem of_transact {β : Type} (hs : OwnVectors embedder own ttl es s)
    {f : Tables Element (Vec α) τ → Tables Element (Vec α) τ × β}
    (hrecords : ∀ t, ∀ r ∈ (f t).1.records, r ∈ t.records)
    (hcache : ∀ t, ∀ entry ∈ (f t).1.cache, entry ∈ t.cache) :
    OwnVectors embedder own ttl es (s.onStore (·.transact f)).2 := by
  obtain ⟨hrecord, hentry⟩ := mem_of_mem_transact (s := s.store) hrecords hcache
  exact ⟨hs.sameEmbedder, (ttl_of_setup (setup_transact s.store f)).trans hs.sameTtl,
    fun r hr => hs.record r (hrecord r hr), fun entry he => hs.entry entry (hentry entry he),
    fun entry he => hs.expires entry (hentry entry he)⟩

end OwnVectors

variable [Scalar α]

/-- Every element gets a vector of its own, if live vectors are. -/
theorem Assigned.own {embedder : Embedder α} {live : Element → Option (Vec α)}
    {own : String → Vec α} {asked asked' : List String} {es : List Element} {vs : List (Vec α)}
    (h : Assigned embedder live asked es vs asked')
    (hown : ∀ asked text, (embedder.embed asked text).1 = .ok (own text))
    (hlive : ∀ e ∈ es, ∀ v, live e = some v → v = own e.text) {e : Element} {v : Vec α}
    (hv : (e, v) ∈ es.zip vs) : v = own e.text := by
  rcases h.live_or_embedded hv with hcached | ⟨asked₁, hembed⟩
  · exact hlive e (List.of_mem_zip hv).1 v hcached
  · rw [hown] at hembed
    exact (Except.ok.inj hembed).symm

/-- Elements that find each other's vectors in the cache have the same embedding. -/
def KeysTell (embedder : Embedder α) (es : List Element) : Prop :=
  ∀ a ∈ es, ∀ b ∈ es, ∀ key, a.metadata.cacheKey = some key → b.metadata.cacheKey = some key →
    fits key.lineNumber = true → (embedder.embed [] a.text).1 = (embedder.embed [] b.text).1

variable [IsOrderedAddMonoid τ]

namespace OwnVectors

variable {embedder : Embedder α} {own : String → Vec α} {ttl : τ} {es : List Element}
  {s : Service α τ}

private theorem of_live (hs : OwnVectors embedder own ttl es s)
    (hown : ∀ asked text, (embedder.embed asked text).1 = .ok (own text))
    (htell : 0 < ttl → KeysTell embedder es) {e : Element} (he : e ∈ es) {v : Vec α}
    (hlive : s.live? e = some v) : v = own e.text := by
  obtain ⟨key, hkey, hcached⟩ := Option.bind_eq_some_iff.mp hlive
  obtain ⟨entry, hfind, rfl⟩ := Option.map_eq_some_iff.mp hcached
  have hmem := List.mem_of_find?_eq_some hfind
  have hfound := List.find?_some hfind
  simp only [Bool.and_eq_true, beq_iff_eq, decide_eq_true_eq] at hfound
  obtain ⟨rfl, hnow⟩ := hfound
  obtain ⟨hfits, e', he', hkey', hvector⟩ := hs.entry entry hmem
  have httl : 0 < ttl := pos_of_lt_add_right (hnow.trans_le (hs.expires entry hmem))
  have htexts := htell httl e' he' e he entry.key hkey' hkey hfits
  rw [hown, hown] at htexts
  rw [hvector, Except.ok.inj htexts]

omit [Scalar α] [IsOrderedAddMonoid τ] in
/-- What is cached when elements are indexed are vectors of these elements, and lasts no longer than the
store keeps new ones. -/
theorem of_mem_cache (hs : OwnVectors embedder own ttl es s) {batch : List Element}
    (hbatch : ∀ e ∈ batch, e ∈ es) (hfit : s.KeysFit batch) {vs : List (Vec α)}
    (hvs : ∀ {e v}, (e, v) ∈ batch.zip vs → v = own e.text) :
    ∀ entry ∈ (s.store.written.cacheAllUntil (s.now + s.store.ttl)
      (newEntries s.live? batch vs)).cache,
      (fits entry.key.lineNumber = true ∧
        ∃ e ∈ es, e.metadata.cacheKey = some entry.key ∧ entry.vector = own e.text) ∧
        entry.expires ≤ s.now + ttl := by
  intro entry hentry
  rcases Tables.mem_cache_cacheAllUntil hentry with hold | ⟨hnew, hexpires⟩
  · exact ⟨hs.entry entry hold, hs.expires entry hold⟩
  · obtain ⟨e, hpair, hkey⟩ := mem_newEntries hnew
    have he : e ∈ batch := (List.of_mem_zip hpair).1
    refine ⟨⟨(hfit e he entry.key hkey).2, e, hbatch e he, hkey, hvs hpair⟩, ?_⟩
    rw [hexpires, hs.sameTtl]

private theorem indexBatch (hs : OwnVectors embedder own ttl es s)
    (hown : ∀ asked text, (embedder.embed asked text).1 = .ok (own text))
    (htell : 0 < ttl → KeysTell embedder es) {batch : List Element} (hbatch : ∀ e ∈ batch, e ∈ es) :
    OwnVectors embedder own ttl es (s.indexBatch batch).2 := by
  rcases hrun : s.indexBatch batch with ⟨result, s'⟩
  have hvs : ∀ {vs asked}, Assigned s.embedder s.live? s.asked batch vs asked →
      ∀ {e v}, (e, v) ∈ batch.zip vs → v = own e.text := by
    intro vs asked hassigned
    rw [hs.sameEmbedder] at hassigned
    exact hassigned.own hown fun e he v hlive => hs.of_live hown htell (hbatch e he) hlive
  cases result with
  | error f =>
    obtain ⟨-, store, asked, drawn, rfl, -, hleaves, hsetup⟩ := indexBatch_error hrun
    have httl := (ttl_of_setup hsetup).trans hs.sameTtl
    generalize hwritten : store.written = t at hleaves
    cases hleaves with
    | same =>
      exact ⟨hs.sameEmbedder, httl, hwritten ▸ hs.record, hwritten ▸ hs.entry,
        hwritten ▸ hs.expires⟩
    | cached _ hfit hassigned =>
      have hcache := hs.of_mem_cache hbatch hfit (hvs hassigned)
      refine ⟨hs.sameEmbedder, httl, ?_, ?_, ?_⟩ <;> rw [hwritten]
      · rw [Tables.records_cacheAllUntil]
        exact hs.record
      · exact fun entry hentry => (hcache entry hentry).1
      · exact fun entry hentry => (hcache entry hentry).2
  | ok ids =>
    obtain ⟨rfl, ⟨-, hfit⟩, vs, store, asked, rfl, hassigned, hwritten, hsetup⟩ := indexBatch_ok hrun
    have hcache := hs.of_mem_cache hbatch hfit (hvs hassigned)
    refine ⟨hs.sameEmbedder, (ttl_of_setup hsetup).trans hs.sameTtl, ?_, ?_, ?_⟩ <;> rw [hwritten]
    · intro r hr
      rcases Tables.mem_records_putAll hr with hold | hnew
      · rw [Tables.records_cacheAllUntil] at hold
        exact hs.record r hold
      · exact hvs hassigned (mem_recordsOf hnew)
    · rw [Tables.cache_putAll]
      exact fun entry hentry => (hcache entry hentry).1
    · rw [Tables.cache_putAll]
      exact fun entry hentry => (hcache entry hentry).2

private theorem perform (hs : OwnVectors embedder own ttl es s)
    (hown : ∀ asked text, (embedder.embed asked text).1 = .ok (own text))
    (htell : 0 < ttl → KeysTell embedder es) {action : Action τ} (haction : action.Over es) :
    OwnVectors embedder own ttl es (s.perform action) := by
  cases action with
  | index e =>
    rw [perform_index]
    exact hs.indexBatch hown htell fun e' he' => List.mem_singleton.mp he' ▸ haction
  | indexBatch batch => exact hs.indexBatch hown htell haction
  | deleteAll =>
    exact hs.of_transact (fun t r hr => (List.mem_filter.mp hr).1) fun t entry hentry => hentry
  | purge =>
    exact hs.of_transact (fun t r hr => hr) fun t entry hentry => (List.mem_filter.mp hentry).1
  | wait d =>
    have hlater : s.now + ttl ≤ s.now + d + ttl :=
      add_le_add_left (le_add_of_nonneg_right haction) ttl
    exact ⟨hs.sameEmbedder, hs.sameTtl, hs.record, hs.entry,
      fun entry hentry => (hs.expires entry hentry).trans hlater⟩

private theorem run (hs : OwnVectors embedder own ttl es s)
    (hown : ∀ asked text, (embedder.embed asked text).1 = .ok (own text))
    (htell : 0 < ttl → KeysTell embedder es) {actions : List (Action τ)}
    (hactions : ∀ action ∈ actions, action.Over es) :
    OwnVectors embedder own ttl es (s.run actions) := by
  induction actions generalizing s with
  | nil => exact hs
  | cons action actions ih =>
    rw [run_cons]
    exact ih (hs.perform hown htell (hactions action (.head _))) fun later hlater =>
      hactions later (.tail _ hlater)

end OwnVectors

/-- The first element of a store leaves its vector to all that have its cache key. -/
theorem live_of_index {s s' : Service α τ} {ttl : τ} (httl : 0 < ttl)
    (hstore : s.store = Store.empty ttl) {ids : List String} {own : String → Vec α}
    (hown : ∀ asked text, (s.embedder.embed asked text).1 = .ok (own text))
    {e : Element} {key : CacheKey} (hkey : e.metadata.cacheKey = some key)
    (h : s.indexBatch [e] = (.ok ids, s')) {e' : Element}
    (hkey' : e'.metadata.cacheKey = some key) : s'.live? e' = some (own e.text) := by
  obtain ⟨rfl, -, vs, store, asked, rfl, hassigned, hwritten, -⟩ := indexBatch_ok h
  have hempty : s.live? e = none := by simp [live?, hkey, hstore, Store.empty, Tables.cached?]
  have hlive : ∀ e' ∈ [e], ∀ v, s.live? e' = some v → v = own e'.text := by simp [hempty]
  obtain ⟨v, rfl⟩ := List.length_eq_one_iff.mp hassigned.length_eq
  obtain rfl : v = own e.text := hassigned.own hown hlive (.head _)
  have hcache : store.written.cache = [⟨key, own e.text, s.now + ttl⟩] := by
    rw [hwritten, Tables.cache_putAll, hstore]
    simp [newEntries, hempty, hkey, Store.empty, Tables.cacheAllUntil, Tables.cacheUntil]
  simp [live?, hkey', Tables.cached?, hcache, httl]

private theorem indexable_of_fits {e : Element} {key : CacheKey} (htext : e.text ≠ "")
    (hkey : e.metadata.cacheKey = some key) (hfits : fits key.lineNumber = true) : Indexable e where
  text := htext
  keyFits key' hkey' := by
    obtain rfl : key = key' := Option.some.inj (hkey.symm.trans hkey')
    exact hfits
  writable := writable_of_fits hkey hfits

/-- Of two elements with one cache key, the later gets the vector of the earlier. -/
theorem record_of_shared_key {s : Service α τ} {ttl : τ} (httl : 0 < ttl)
    (hstore : s.store = Store.empty ttl) {own : String → Vec α}
    (hown : ∀ asked text, (s.embedder.embed asked text).1 = .ok (own text)) {a b : Element}
    (ha : a.text ≠ "") (hb : b.text ≠ "") {key : CacheKey} (hkeya : a.metadata.cacheKey = some key)
    (hkeyb : b.metadata.cacheKey = some key) (hfits : fits key.lineNumber = true) :
    ∃ r ∈ (s.run [.index a, .index b]).store.written.all,
      r.element = b ∧ r.vector = own a.text := by
  have hembed : ∀ asked text, ∃ v, (s.embedder.embed asked text).1 = .ok v :=
    fun asked text => ⟨own text, hown asked text⟩
  have hopen : s.store.isOpen = true := hstore ▸ rfl
  have hok : ∃ ids s₁, s.indexBatch [a] = (.ok ids, s₁) :=
    exists_indexBatch_ok hopen hembed
      (List.forall_mem_singleton.mpr (indexable_of_fits ha hkeya hfits))
  obtain ⟨ids, s₁, hfirst⟩ := hok
  obtain ⟨-, -, vs, store, asked, hs₁, -, -, hsetup⟩ := indexBatch_ok hfirst
  have hopen₁ : s₁.store.isOpen = true := by
    rw [hs₁]
    exact (isOpen_of_setup hsetup).trans hopen
  have hsame : s₁.embedder = s.embedder := by rw [hs₁]
  have hok₁ : ∃ ids s₂, s₁.indexBatch [b] = (.ok ids, s₂) :=
    exists_indexBatch_ok hopen₁ (hsame ▸ hembed)
      (List.forall_mem_singleton.mpr (indexable_of_fits hb hkeyb hfits))
  obtain ⟨ids', s₂, hsecond⟩ := hok₁
  obtain ⟨v, hassigned, r, hr, helement, hvector⟩ := record_of_index hsecond
  have hlive := live_of_index httl hstore hown hkeya hfirst hkeyb
  have hv : v = own a.text := by
    cases hassigned with
    | cached hcached _ => exact Option.some.inj (hcached.symm.trans hlive)
    | embedded hnone _ _ => cases hnone.symm.trans hlive
  have hrun : s.run [.index a, .index b] = s₂ := by
    rw [run_cons, run_cons, run_nil, perform_index, perform_index]
    change ((s.indexBatch [a]).2.indexBatch [b]).2 = s₂
    rw [hfirst, hsecond]
  exact ⟨r, hrun ▸ hr, helement, hvector.trans hv⟩

/-- Elements of a file are indexed in an empty store, in any order, alone or together, again and again
and with wipes in between. With a provider that goes by the text alone and keeps to one length, every
record has the embedding of its element, if and only if the store keeps no vectors or the elements
that share a cache key have the same embedding. -/
theorem vectors_own_iff {content : String} {includes excludes : List String}
    {origin : Extraction.Origin} {es : List Element}
    (hextract : Extraction.extract content includes excludes origin = .ok es)
    {reply : String → Vec α} {d : Nat} (hreply : ∀ text, (reply text).length = d) {limit : Nat}
    {ttl : τ} {s : Service α τ} (hstore : s.store = Store.empty ttl)
    (hembedder : s.embedder = ⟨some fun _ text => .ok (reply text), limit⟩) :
    (∀ actions : List (Action τ), (∀ action ∈ actions, action.Over es) →
      ∀ r ∈ (s.run actions).store.written.all, ∀ asked,
        (s.embedder.embed asked r.element.text).1 = .ok r.vector) ↔
      (0 < ttl → KeysTell s.embedder es) := by
  obtain ⟨own, hown⟩ := embed_replies hreply limit
  rw [← hembedder] at hown
  constructor
  · intro hruns httl a ha b hb key hkeya hkeyb hfits
    obtain ⟨r, hr, rfl, hvector⟩ := record_of_shared_key httl hstore hown
      (Extraction.text_ne_empty hextract ha) (Extraction.text_ne_empty hextract hb) hkeya hkeyb hfits
    have hactions : ∀ action ∈ [Action.index a, .index r.element], action.Over (τ := τ) es := by
      simp [Action.Over, ha, hb]
    rw [hruns _ hactions r hr [], hvector, hown]
  · intro htell actions hactions r hr asked
    have hrun := (OwnVectors.empty rfl hstore).run hown htell hactions
    rw [hown, hrun.record r (Tables.mem_records_of_mem_all hr)]

private noncomputable def lengthVector (text : String) : Vec ℝ :=
  [(text.length : ℝ)]

/-- A service whose provider tells the number of letters of a text. -/
private noncomputable def lengthService : Service ℝ ℤ where
  store := Store.empty 10
  embedder := ⟨some fun _ text => .ok (lengthVector text), 1000⟩
  ids := fun n => String.ofList (List.replicate n 'a')
  now := 0

private def hashed : Extraction.Origin :=
  { filePath := "a.js", fileHash := some "h" }

private theorem ok_of_toOption {ε β : Type} {r : Except ε β} {b : β} (h : r.toOption = some b) :
    r = .ok b := by
  cases r with
  | error e => cases h
  | ok b' => exact congrArg Except.ok (Option.some.inj h)

/-- Functions of one name on two lines have each a key of its own. -/
theorem vectors_own_on_two_lines :
    let a : Element := ⟨⟨"a.js", 1, "f", none, some "h", none⟩, "function f(){}"⟩
    let b : Element := ⟨⟨"a.js", 2, "f", none, some "h", none⟩, "function f(){1}"⟩
    Extraction.extract "function f(){}\nfunction f(){1}" Language.javascript.includes [] hashed =
        .ok [a, b] ∧
      ∀ actions : List (Action ℤ), (∀ action ∈ actions, action.Over [a, b]) →
        ∀ r ∈ (lengthService.run actions).store.written.all, ∀ asked,
          (lengthService.embedder.embed asked r.element.text).1 = .ok r.vector := by
  intro a b
  have hextract : Extraction.extract "function f(){}\nfunction f(){1}"
      Language.javascript.includes [] hashed = .ok [a, b] :=
    ok_of_toOption (by decide +kernel)
  have htell : KeysTell lengthService.embedder [a, b] := by
    intro e he e' he' key hkey hkey' _
    have hlines : e.metadata.cacheKey = e'.metadata.cacheKey := hkey.trans hkey'.symm
    simp only [List.mem_cons, List.not_mem_nil, or_false] at he he'
    rcases he with rfl | rfl <;> rcases he' with rfl | rfl
    · rfl
    · exact absurd hlines (by decide)
    · exact absurd hlines (by decide)
    · rfl
  have hreply : ∀ text, (lengthVector text).length = 1 := fun _ => rfl
  have hstore : lengthService.store = Store.empty 10 := rfl
  have hembedder : lengthService.embedder = ⟨some fun _ text => .ok (lengthVector text), 1000⟩ := rfl
  exact ⟨hextract, (vectors_own_iff hextract hreply hstore hembedder).mpr fun _ => htell⟩

/-- Of two functions of one name on one line, the second gets the vector of the first. -/
theorem vectors_not_own_on_one_line :
    let a : Element := ⟨⟨"a.js", 1, "f", none, some "h", none⟩, "function f(){}"⟩
    let b : Element := ⟨⟨"a.js", 1, "f", none, some "h", none⟩, "function f(){1}"⟩
    Extraction.extract "function f(){}function f(){1}" Language.javascript.includes [] hashed =
        .ok [a, b] ∧
      ∃ r ∈ (lengthService.run [.index a, .index b]).store.written.all, r.element = b ∧
        (lengthService.embedder.embed [] r.element.text).1 ≠ .ok r.vector := by
  intro a b
  have hextract : Extraction.extract "function f(){}function f(){1}"
      Language.javascript.includes [] hashed = .ok [a, b] :=
    ok_of_toOption (by decide +kernel)
  have hreply : ∀ text, (lengthVector text).length = 1 := fun _ => rfl
  obtain ⟨own, hown⟩ := embed_replies hreply 1000
  have hembed : ∀ text, text.toList.length ≤ 1000 →
      (lengthService.embedder.embed [] text).1 = .ok (lengthVector text) :=
    fun text hshort => congrArg Prod.fst (embed_of_short [] hshort)
  have hfirst : own a.text = lengthVector a.text :=
    Except.ok.inj ((hown [] a.text).symm.trans (hembed a.text (by decide)))
  have httl : (0 : ℤ) < 10 := by decide
  have hstore : lengthService.store = Store.empty 10 := rfl
  have hkeya : a.metadata.cacheKey = some ⟨"h", "f", 1⟩ := rfl
  have hkeyb : b.metadata.cacheKey = some ⟨"h", "f", 1⟩ := rfl
  obtain ⟨r, hr, helement, hvector⟩ := record_of_shared_key httl hstore hown (by decide) (by decide)
    hkeya hkeyb (by decide)
  have hlengths : (b.text.length : ℝ) ≠ a.text.length := Nat.cast_injective.ne (by decide)
  refine ⟨hextract, r, hr, helement, ?_⟩
  rw [helement, hvector, hfirst, hembed b.text (by decide)]
  exact fun heq => hlengths (List.head_eq_of_cons_eq (Except.ok.inj heq))

end CodeTwins.Service
