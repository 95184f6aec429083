import CodeTwins.Proofs.Service.HeldVectors
import CodeTwins.Proofs.Service.Requests
import CodeTwins.Proofs.Store.Same

/-!
# Together and one by one

A list that is indexed as a whole is looked up before anything is written; of elements that are
indexed one by one, a later one may find what an earlier one has cached. If elements with one cache
key have one text, this makes no difference: both ways leave the same tables under the same ids. The
ways part only at a line that does not fit, where a list is refused as a whole.
-/
namespace CodeTwins

namespace Service

open CodeTwins.Embedding Store

variable {α τ : Type} [Scalar α] [LT τ] [DecidableRel (α := τ) (· < ·)]

section Vectors

omit [Scalar α]

/-- The vector that an element gets: the live one, or else the embedding of its text. -/
def vectorOf (own : String → Vec α) (s : Service α τ) (e : Element) : Vec α :=
  (s.live? e).getD (own e.text)

private theorem newEntries_map (live : Element → Option (Vec α)) (g : Element → Vec α)
    (es : List Element) :
    newEntries live es (es.map g) = es.filterMap fun e =>
      if (live e).isSome then none else e.metadata.cacheKey.map (·, g e) := by
  rw [newEntries, ← List.map_prod_left_eq_zip, List.filterMap_map]
  rfl

private theorem newEntries_cons (live : Element → Option (Vec α)) (g : Element → Vec α) (e : Element)
    (es : List Element) :
    newEntries live (e :: es) ((e :: es).map g) =
      newEntries live [e] ([e].map g) ++ newEntries live es (es.map g) := by
  rw [newEntries_map, newEntries_map, newEntries_map, ← List.filterMap_append, List.singleton_append]

private theorem mem_newEntries_map {live : Element → Option (Vec α)} {g : Element → Vec α}
    {es : List Element} {key : CacheKey} {v : Vec α} :
    (key, v) ∈ newEntries live es (es.map g) ↔
      ∃ e ∈ es, e.metadata.cacheKey = some key ∧ live e = none ∧ g e = v := by
  rw [newEntries_map, List.mem_filterMap]
  refine exists_congr fun e => and_congr_right fun _ => ?_
  cases live e <;> simp

end Vectors

private theorem Assigned.eq_map {embedder : Embedder α} {live : Element → Option (Vec α)}
    {own : String → Vec α} (hown : ∀ asked text, (embedder.embed asked text).1 = .ok (own text))
    {asked asked' : List String} {es : List Element} {vs : List (Vec α)}
    (h : Assigned embedder live asked es vs asked') :
    vs = es.map fun e => (live e).getD (own e.text) := by
  induction h with
  | nil => rfl
  | cached hlive _ ih => rw [List.map_cons, ← ih, hlive, Option.getD_some]
  | @embedded e v asked _ _ _ _ hlive hv _ ih =>
    have hvector : v = own e.text := by
      have hembed := hown asked e.text
      rw [hv] at hembed
      exact Except.ok.inj hembed
    rw [List.map_cons, ← ih, hlive, Option.getD_none, hvector]

variable [Add τ]

/-- The tables after elements have been indexed as a whole. -/
def tablesAfter (own : String → Vec α) (s : Service α τ) (es : List Element) :
    Tables Element (Vec α) τ :=
  (s.store.written.cacheAllUntil (s.now + s.store.ttl)
      (newEntries s.live? es (es.map (s.vectorOf own)))).putAll
    (recordsOf (s.nextIds es.length) es (es.map (s.vectorOf own)))

variable {own : String → Vec α} {s s' : Service α τ} {es : List Element}

/-- What a list of elements that is indexed leaves behind: the tables after it, all of them saved, and
as many ids less. -/
structure Indexed (own : String → Vec α) (s : Service α τ) (es : List Element)
    (s' : Service α τ) : Prop where
  rest : ∃ store asked, s' = { s with store := store, asked := asked, drawn := s.drawn + es.length }
  setup : s'.store.setup = s.store.setup
  tables : Tables.Same s'.store.written (s.tablesAfter own es)
  settled : s'.store.Settled

private theorem settled_of_indexBatch_ok {ids : List String} (hes : es ≠ [])
    (h : s.indexBatch es = (.ok ids, s')) : s.store.isOpen = true ∧ s'.store.Settled := by
  unfold indexBatch at h
  split at h
  · cases h
  rw [if_neg (by simpa using hes)] at h
  obtain ⟨found, s₁, hlookup, h⟩ := andThen_ok h
  obtain ⟨rfl, hfit, store₁, rfl, -, hsetup₁⟩ := lookup_ok hlookup
  obtain ⟨fresh, s₂, hnew, h⟩ := andThen_ok h
  obtain ⟨store₂, asked, hembed, rfl, -, hsetup₂⟩ := embedAll_ok (hfit.missing hsetup₁ _) hnew
  obtain ⟨hassigned, -⟩ := assigned_of_embedEach hembed
  obtain ⟨rfl, -, store₃, hput, rfl⟩ := putAll_of_storeAll_ok h
  have hrecords : recordsOf (nextIds { s with store := store₂, asked := asked } es.length) es
      (fill (es.map s.live?) fresh) ≠ [] := by
    have hids := (recordsOf_parts (length_nextIds { s with store := store₂, asked := asked } es.length)
      hassigned.length_eq).2.1
    intro hnil
    rw [hnil] at hids
    exact hes hids.symm
  obtain ⟨hopen, hsettled⟩ := putAll_some_ok hrecords hput
  exact ⟨(isOpen_of_setup (hsetup₂.trans hsetup₁)).symm.trans hopen, hsettled⟩

private theorem indexed_of_indexBatch_ok {ids : List String} (hes : es ≠ [])
    (hown : ∀ asked text, (s.embedder.embed asked text).1 = .ok (own text))
    (h : s.indexBatch es = (.ok ids, s')) : ids = s.nextIds es.length ∧ Indexed own s es s' := by
  obtain ⟨-, hsettled⟩ := settled_of_indexBatch_ok hes h
  obtain ⟨rfl, -, vs, store, asked, rfl, hassigned, hwritten, hsetup⟩ := indexBatch_ok h
  have hvs : vs = es.map (s.vectorOf own) := hassigned.eq_map hown
  refine ⟨rfl, ⟨store, asked, rfl⟩, hsetup, ?_, hsettled⟩
  change Tables.Same store.written _
  rw [hwritten, hvs]
  exact .refl _

omit [Scalar α] [DecidableRel (α := τ) (· < ·)] [LT τ] [Add τ] in
private theorem nextIds_succ (hrest : ∃ store asked,
    s' = { s with store := store, asked := asked, drawn := s.drawn + 1 }) (n : Nat) :
    s.nextIds (n + 1) = s.ids s.drawn :: s'.nextIds n := by
  obtain ⟨store, asked, rfl⟩ := hrest
  simp only [nextIds, drawIds, List.range_succ_eq_map, List.map_cons, List.map_map, Nat.add_zero]
  congr 2
  funext i
  simp only [Function.comp, Nat.succ_eq_add_one]
  congr 1
  omega

/-- Elements with one cache key have one text. -/
def KeysShareText (es : List Element) : Prop :=
  ∀ a ∈ es, ∀ b ∈ es, a.metadata.cacheKey ≠ none → a.metadata.cacheKey = b.metadata.cacheKey →
    a.text = b.text

instance (es : List Element) : Decidable (KeysShareText es) :=
  inferInstanceAs (Decidable (∀ a ∈ es, ∀ b ∈ es, a.metadata.cacheKey ≠ none →
    a.metadata.cacheKey = b.metadata.cacheKey → a.text = b.text))

private theorem KeysShareText.subset {es some : List Element} (h : KeysShareText es)
    (hsome : some ⊆ es) : KeysShareText some :=
  fun a ha b hb => h a (hsome ha) b (hsome hb)

omit [Scalar α] [Add τ] in
private theorem live?_eq_of_cacheKey {e e' : Element}
    (h : e.metadata.cacheKey = e'.metadata.cacheKey) : s.live? e = s.live? e' := by
  rw [live?, live?, h]

omit [Scalar α] [Add τ] in
/-- New vectors of elements that share a key are the embedding of their text. -/
theorem eq_own_of_mem_newEntries (hshare : KeysShareText es) {e : Element} (he : e ∈ es)
    {live : Element → Option (Vec α)} {some : List Element} (hsome : ∀ e' ∈ some, e' ∈ es)
    {key : CacheKey} (hkey : e.metadata.cacheKey = key) {v : Vec α}
    (hv : (key, v) ∈ newEntries live some (some.map fun e => (live e).getD (own e.text))) :
    v = own e.text := by
  obtain ⟨e', he', hkey', hlive, rfl⟩ := mem_newEntries_map.mp hv
  have htext : e'.text = e.text :=
    hshare e' (hsome e' he') e he (by rw [hkey']; simp) (hkey'.trans hkey.symm)
  rw [hlive, Option.getD_none, htext]

omit [Scalar α] in
/-- An element that has been indexed changes what is live for another only by its own vector. -/
theorem Indexed.live? {s₁ : Service α τ} {e : Element} (h : Indexed own s [e] s₁) {e' : Element}
    (hshare : KeysShareText [e, e']) :
    s₁.live? e' = s.live? e' ∨ s.live? e' = none ∧ ∃ key, e'.metadata.cacheKey = some key ∧
      s₁.store.written.entriesOf key = [⟨key, own e'.text, s.now + s.store.ttl⟩] := by
  obtain ⟨store, asked, rfl⟩ := h.rest
  cases hkey' : e'.metadata.cacheKey with
  | none =>
    left
    simp only [Service.live?, hkey', Option.bind_none]
  | some key =>
    have hentries := h.tables.entries key
    rw [tablesAfter, Tables.entriesOf_putAll, Tables.entriesOf_cacheAllUntil] at hentries
    split at hentries
    case h_1 v hlast =>
      have hv := mem_of_lastVector_eq hlast
      obtain ⟨a, ha, hkey, hlive, -⟩ := mem_newEntries_map.mp hv
      obtain rfl := List.mem_singleton.mp ha
      obtain rfl : v = own e'.text :=
        eq_own_of_mem_newEntries hshare (by simp) (by simp) hkey' hv
      exact .inr ⟨(live?_eq_of_cacheKey (hkey'.trans hkey.symm)).trans hlive, key, rfl, hentries⟩
    case h_2 hlast =>
      left
      simp only [Service.live?, hkey', Option.bind_some, Tables.cached?_eq_find?]
      rw [hentries]

omit [Scalar α] in
/-- Elements after the first get the vectors that they get together with it. -/
theorem Indexed.vectorOf_eq {s₁ : Service α τ} {e : Element} (h : Indexed own s [e] s₁)
    {e' : Element} (hshare : KeysShareText [e, e']) : s₁.vectorOf own e' = s.vectorOf own e' := by
  rw [vectorOf, vectorOf]
  rcases h.live? hshare with hsame | ⟨hnone, key, hkey, hentries⟩
  · rw [hsame]
  · have hlive : s₁.live? e' = none ∨ s₁.live? e' = some (own e'.text) := by
      simp only [Service.live?, hkey, Option.bind_some, Tables.cached?_eq_find?, hentries,
        List.find?_cons, List.find?_nil]
      split
      · exact .inr rfl
      · exact .inl rfl
    rcases hlive with hlive | hlive
    · rw [hlive, hnone]
    · rw [hlive, hnone, Option.getD_some, Option.getD_none]

omit [Scalar α] in
/-- To cache the vectors of the elements after the first again, or only those that are not live after
it, leaves the same. -/
theorem Indexed.entriesOf_eq {s₁ : Service α τ} {e : Element} (h : Indexed own s [e] s₁)
    (hshare : KeysShareText (e :: es)) (key : CacheKey) :
    (s₁.store.written.cacheAllUntil (s.now + s.store.ttl)
        (newEntries s₁.live? es (es.map (s.vectorOf own)))).entriesOf key =
      (s₁.store.written.cacheAllUntil (s.now + s.store.ttl)
        (newEntries s.live? es (es.map (s.vectorOf own)))).entriesOf key := by
  have hlive : ∀ e' ∈ es, s₁.live? e' = s.live? e' ∨ s.live? e' = none ∧
      ∃ key, e'.metadata.cacheKey = some key ∧
        s₁.store.written.entriesOf key = [⟨key, own e'.text, s.now + s.store.ttl⟩] :=
    fun e' he' => h.live? (hshare.subset (by simpa using Or.inr he'))
  have hsame : ∀ e' ∈ es, e'.metadata.cacheKey = some key →
      ∀ v, (key, v) ∈ newEntries s.live? es (es.map (s.vectorOf own)) → v = own e'.text :=
    fun e' he' hkey v hv =>
      eq_own_of_mem_newEntries hshare (.tail _ he') (fun _ ha => .tail _ ha) hkey hv
  -- what is not live after the first element has not been live before it
  have hsub : ∀ v, (key, v) ∈ newEntries s₁.live? es (es.map (s.vectorOf own)) →
      (key, v) ∈ newEntries s.live? es (es.map (s.vectorOf own)) := by
    intro v hv
    obtain ⟨e', he', hkey, hnone₁, rfl⟩ := mem_newEntries_map.mp hv
    rcases hlive e' he' with hboth | ⟨hnone, -⟩
    · exact mem_newEntries_map.mpr ⟨e', he', hkey, hboth ▸ hnone₁, rfl⟩
    · exact mem_newEntries_map.mpr ⟨e', he', hkey, hnone, rfl⟩
  rw [Tables.entriesOf_cacheAllUntil, Tables.entriesOf_cacheAllUntil]
  cases hlast : lastVector (newEntries s.live? es (es.map (s.vectorOf own))) key with
  | none =>
    have hnone := lastVector_eq_none_iff.mp hlast
    rw [lastVector_eq_none_iff.mpr fun v hv => hnone v (hsub v hv)]
  | some v =>
    have hv := mem_of_lastVector_eq hlast
    obtain ⟨e', he', hkey, hnone, -⟩ := mem_newEntries_map.mp hv
    obtain rfl : v = own e'.text := hsame e' he' hkey v hv
    rcases hlive e' he' with hboth | ⟨-, key', hkey', hentries⟩
    · have hmem : (key, own e'.text) ∈ newEntries s₁.live? es (es.map (s.vectorOf own)) := by
        obtain ⟨a, ha, hkeya, hnonea, hveca⟩ := mem_newEntries_map.mp hv
        exact mem_newEntries_map.mpr ⟨e', he', hkey, hboth.trans hnone, by
          rw [vectorOf, hnone, Option.getD_none]⟩
      rw [lastVector_of_mem hmem fun v' hv' => hsame e' he' hkey v' (hsub v' hv')]
    · obtain rfl : key' = key := Option.some.inj (hkey'.symm.trans hkey)
      split
      case h_1 v' hlast' =>
        rw [hsame e' he' hkey v' (hsub v' (mem_of_lastVector_eq hlast'))]
      case h_2 => exact hentries

omit [Scalar α] in
/-- The first element and then the others leave the tables that all leave together. -/
theorem Indexed.cons {s₁ : Service α τ} {e : Element} (h : Indexed own s [e] s₁)
    (h' : Indexed own s₁ es s') (hshare : KeysShareText (e :: es)) :
    Indexed own s (e :: es) s' where
  rest := by
    obtain ⟨store₁, asked₁, rfl⟩ := h.rest
    obtain ⟨store, asked, rfl⟩ := h'.rest
    refine ⟨store, asked, ?_⟩
    simp only [List.length_cons, List.length_nil, Nat.zero_add]
    rw [Nat.add_assoc, Nat.add_comm 1]
  setup := h'.setup.trans h.setup
  settled := h'.settled
  tables := by
    have hids := nextIds_succ h.rest es.length
    have hvectors : es.map (s₁.vectorOf own) = es.map (s.vectorOf own) :=
      List.map_congr_left fun e' he' => h.vectorOf_eq (hshare.subset (by simpa using Or.inr he'))
    have hnow : s₁.now = s.now := by
      obtain ⟨store, asked, rfl⟩ := h.rest
      rfl
    have hafter := h'.tables
    rw [tablesAfter, hnow, ttl_of_setup h.setup, hvectors] at hafter
    have hfirst := h.tables
    rw [tablesAfter, List.length_singleton, nextIds_succ h.rest 0] at hfirst
    rw [tablesAfter, List.length_cons, hids, newEntries_cons, Tables.cacheAllUntil_append]
    have hkeys := Tables.Same.cacheAllUntil (.refl s₁.store.written) (h.entriesOf_eq hshare)
    have hcached := (hkeys.trans (hfirst.cacheAllUntil_same _ _)).putAll
      (recordsOf (s₁.nextIds es.length) es (es.map (s.vectorOf own)))
    rw [Tables.cacheAllUntil_putAll, ← Tables.putAll_append] at hcached
    exact hafter.trans hcached

/-- Indexes elements one after another, up to the first that is refused. -/
def indexEach (s : Service α τ) : List Element → Answer α τ (List String)
  | [] => (.ok [], s)
  | e :: es =>
    (s.index e).andThen fun id s => (s.indexEach es).andThen fun ids s => (.ok (id :: ids), s)

private theorem indexEach_append (s : Service α τ) (es more : List Element) :
    s.indexEach (es ++ more) = (s.indexEach es).andThen fun ids s =>
      (s.indexEach more).andThen fun ids' s => (.ok (ids ++ ids'), s) := by
  induction es generalizing s with
  | nil =>
    rw [List.nil_append, indexEach, ok_andThen]
    rcases s.indexEach more with ⟨result, s'⟩
    cases result <;> rfl
  | cons e es ih =>
    simp only [List.cons_append, indexEach, andThen_assoc, ih, ok_andThen]

private theorem indexEach_ok (hopen : s.store.isOpen = true)
    (hown : ∀ asked text, (s.embedder.embed asked text).1 = .ok (own text))
    (hes : ∀ e ∈ es, Indexable e) (hshare : KeysShareText es) (hs : s.store.Settled ∨ es ≠ []) :
    ∃ s', s.indexEach es = (.ok (s.nextIds es.length), s') ∧ Indexed own s es s' := by
  induction es generalizing s with
  | nil => exact ⟨s, rfl, ⟨s.store, s.asked, rfl⟩, rfl, .refl _, hs.resolve_right (· rfl)⟩
  | cons e es ih =>
    obtain ⟨he, hrest⟩ := List.forall_mem_cons.mp hes
    obtain ⟨ids, s₁, hbatch⟩ : ∃ ids s₁, s.indexBatch [e] = (.ok ids, s₁) :=
      exists_indexBatch_ok hopen (fun asked text => ⟨own text, hown asked text⟩)
        (List.forall_mem_singleton.mpr he)
    obtain ⟨rfl, hfirst⟩ := indexed_of_indexBatch_ok (List.cons_ne_nil e []) hown hbatch
    have hsame : s₁.embedder = s.embedder := by
      obtain ⟨store, asked, rfl⟩ := hfirst.rest
      rfl
    obtain ⟨s', heach, hindexed⟩ := ih ((isOpen_of_setup hfirst.setup).trans hopen)
      (hsame ▸ hown) hrest (hshare.subset (List.subset_cons_self e es)) (.inl hfirst.settled)
    refine ⟨s', ?_, hfirst.cons hindexed hshare⟩
    have hids : s.nextIds (e :: es).length = s.ids s.drawn :: s₁.nextIds es.length :=
      nextIds_succ hfirst.rest es.length
    rw [indexEach, index_eq_indexBatch s he.text, hbatch, hids]
    simp only [Except.map, ok_andThen, heach]
    rfl

/-- A closed store is left as it is. -/
theorem unchanged_of_closed (hclosed : s.store.isOpen = false) (es : List Element) :
    Unchanged s (s.indexBatch es).2 := by
  have hclosed' : ∀ {s' : Service α τ}, Unchanged s s' → s'.store.isOpen = false :=
    fun hs' => hs'.store ▸ hclosed
  unfold indexBatch
  split
  · exact .refl s
  split
  · exact .refl s
  refine unchanged_andThen (unchanged_onStore (.refl s) (snd_cachedAll_of_closed hclosed _ _))
    fun found s₁ hs₁ => unchanged_andThen ?_ fun fresh s₂ hs₂ => ?_
  · unfold embedAll
    split
    · exact hs₁
    · exact unchanged_andThen (unchanged_onEmbedder hs₁ _) fun vs s₂ hs₂ =>
        unchanged_andThen (unchanged_onStore hs₂ (snd_cacheAll_of_closed (hclosed' hs₂) _ _))
          fun _ _ hs₃ => hs₃
  · have hdrawn : Unchanged s (s₂.drawIds es.length).2 := ⟨hs₂.store, hs₂.ids⟩
    unfold storeAll
    cases es.mapM Element.encode with
    | error => exact hdrawn
    | ok =>
      exact unchanged_andThen
        (unchanged_onStore hdrawn (snd_putAll_of_closed (hclosed' hdrawn) _)) fun _ _ hs₃ => hs₃

private theorem indexBatch_of_closed (hclosed : s.store.isOpen = false) (hsome : es ≠ [])
    (hown : ∀ asked text, (s.embedder.embed asked text).1 = .ok (own text))
    (hes : ∀ e ∈ es, Indexable e) :
    (s.indexBatch es).1 = .error (.store .closed) ∧ (s.indexBatch es).2.store = s.store := by
  refine ⟨?_, (unchanged_of_closed hclosed es).store⟩
  rcases hrun : s.indexBatch es with ⟨result, s'⟩
  cases result with
  | ok ids => cases hclosed.symm.trans (settled_of_indexBatch_ok hsome hrun).1
  | error f =>
    have hembed : ∀ asked text, ∃ v, (s.embedder.embed asked text).1 = .ok v :=
      fun asked text => ⟨own text, hown asked text⟩
    obtain ⟨rfl, -⟩ := (indexBatch_error hrun).1.of_indexable hembed hes
    rfl

private theorem indexEach_of_closed (hclosed : s.store.isOpen = false) (hsome : es ≠ [])
    (hown : ∀ asked text, (s.embedder.embed asked text).1 = .ok (own text))
    (hes : ∀ e ∈ es, Indexable e) :
    (s.indexEach es).1 = .error (.store .closed) ∧ (s.indexEach es).2.store = s.store := by
  obtain ⟨e, rest, rfl⟩ := List.exists_cons_of_ne_nil hsome
  have he : Indexable e := hes e (.head _)
  have hfirst := indexBatch_of_closed hclosed (List.cons_ne_nil e []) hown
    (List.forall_mem_singleton.mpr he)
  have hindex : s.index e = (.error (.store .closed), (s.indexBatch [e]).2) := by
    rw [index_eq_indexBatch s he.text, hfirst.1]
    rfl
  rw [indexEach, hindex]
  exact ⟨rfl, hfirst.2⟩

/-- A list with a line that does not fit is refused as a whole. -/
theorem indexBatch_of_large (hopen : s.store.isOpen = true) (htexts : ∀ e ∈ es, e.text ≠ "")
    {e : Element} (he : e ∈ es) (hlarge : ¬ KeyFits e) :
    s.indexBatch es = (.error (.store .lineTooLarge), s) := by
  have hfind : es.findIdx? (·.text.isEmpty) = none := by
    simpa [List.findIdx?_eq_none_iff] using htexts
  have hes : es.isEmpty = false := by
    simpa using List.ne_nil_of_mem he
  obtain ⟨key, hkey, hfit⟩ : ∃ key, e.metadata.cacheKey = some key ∧ fits key.lineNumber = false := by
    simpa [KeyFits] using hlarge
  have hany : (es.map (·.metadata.cacheKey)).any (·.any (!fits ·.lineNumber)) = true :=
    List.any_eq_true.mpr ⟨some key, hkey ▸ List.mem_map_of_mem he, by simpa using hfit⟩
  have hlookup := cachedAll_of_open hopen s.now (es.map (·.metadata.cacheKey))
  rw [if_pos hany] at hlookup
  have hstore : (s.store.cachedAll s.now (es.map (·.metadata.cacheKey))).2 = s.store :=
    (cachedAll_error (Prod.ext hlookup rfl)).1
  simp only [indexBatch, hfind, hes, Bool.false_eq_true, if_false, onStore, hlookup, hstore]
  rfl

/-- After the elements that are stored one by one, it is the next that decides. -/
theorem indexEach_before (hopen : s.store.isOpen = true)
    (hown : ∀ asked text, (s.embedder.embed asked text).1 = .ok (own text)) {before : List Element}
    (hbefore : ∀ e ∈ before, Indexable e) (hshare : KeysShareText before) :
    ∃ ids s₁, s.indexEach before = (.ok ids, s₁) ∧ s₁.store.isOpen = true ∧
      s₁.embedder = s.embedder := by
  by_cases hnil : before = []
  · exact ⟨[], s, hnil ▸ rfl, hopen, rfl⟩
  · obtain ⟨s₁, heach, hindexed⟩ :=
      indexEach_ok hopen hown hbefore hshare (.inr hnil)
    obtain ⟨store, asked, hs₁⟩ := hindexed.rest
    exact ⟨_, s₁, heach, (isOpen_of_setup hindexed.setup).trans hopen, hs₁ ▸ rfl⟩

/-- One by one, the elements before a line that does not fit are indexed. -/
theorem indexEach_of_large (hopen : s.store.isOpen = true)
    (hown : ∀ asked text, (s.embedder.embed asked text).1 = .ok (own text)) {e : Element}
    {before after : List Element} (hbefore : ∀ e' ∈ before, Indexable e')
    (hshare : KeysShareText before) (htext : e.text ≠ "") (hlarge : ¬ KeyFits e) :
    s.indexEach (before ++ e :: after) =
      (.error (.store .lineTooLarge), (s.indexEach before).2) := by
  obtain ⟨ids, s₁, heach, hopen₁, -⟩ := indexEach_before hopen hown hbefore hshare
  have hrefused : s₁.index e = (.error (.store .lineTooLarge), s₁) := by
    rw [index_eq_indexBatch s₁ htext, indexBatch_of_large hopen₁
      (List.forall_mem_singleton.mpr htext) (.head _) hlarge]
    rfl
  rw [indexEach_append, heach, ok_andThen, indexEach, hrefused]
  rfl

/-- An element that cannot be written, and has no cache key, leaves nothing in the tables. -/
theorem index_of_unwritable (hopen : s.store.isOpen = true)
    (hown : ∀ asked text, (s.embedder.embed asked text).1 = .ok (own text)) {e : Element}
    (htext : e.text ≠ "") (hfits : KeyFits e) (hlong : ¬ e.Writable) :
    (s.index e).1 = .error (.unwritable (.tooManyDigits none)) ∧
      (s.index e).2.store.written = s.store.written := by
  have hkey : e.metadata.cacheKey = none := Option.eq_none_iff_forall_ne_some.mpr fun key hkey =>
    hlong (writable_of_fits hkey (hfits key hkey))
  rw [index_eq_indexBatch s htext]
  rcases hrun : s.indexBatch [e] with ⟨result, s'⟩
  cases result with
  | ok ids => exact absurd ((indexBatch_ok hrun).2.1.1 e (.head _)).2 hlong
  | error f =>
    obtain ⟨hobstacle, store, asked, drawn, rfl, -, hleaves, -⟩ := indexBatch_error hrun
    cases hobstacle with
    | noText he hempty _ =>
      obtain rfl := List.mem_singleton.mp (List.mem_of_getElem? he)
      exact absurd hempty htext
    | closed hclosed => cases hclosed.symm.trans hopen
    | lineTooLarge he hkey' _ =>
      obtain rfl := List.mem_singleton.mp he
      cases hkey.symm.trans hkey'
    | noVector _ _ _ hfail => cases hfail.symm.trans (hown _ _)
    | unwritable =>
      refine ⟨rfl, ?_⟩
      change store.written = s.store.written
      generalize store.written = t at hleaves
      cases hleaves with
      | same hf => exact absurd rfl (hf _)
      | @cached _ vs _ _ hassigned =>
        obtain ⟨v, rfl⟩ := List.length_eq_one_iff.mp hassigned.length_eq
        simp [newEntries, hkey, Tables.cacheAllUntil]

/-- One by one, the elements before one that cannot be written are indexed. -/
theorem indexEach_of_unwritable (hopen : s.store.isOpen = true)
    (hown : ∀ asked text, (s.embedder.embed asked text).1 = .ok (own text)) {e : Element}
    {before after : List Element} (hbefore : ∀ e' ∈ before, Indexable e')
    (hshare : KeysShareText before) (htext : e.text ≠ "") (hfits : KeyFits e)
    (hlong : ¬ e.Writable) :
    (s.indexEach (before ++ e :: after)).1 = .error (.unwritable (.tooManyDigits none)) ∧
      (s.indexEach (before ++ e :: after)).2.store.written =
        (s.indexEach before).2.store.written := by
  obtain ⟨ids, s₁, heach, hopen₁, hsame⟩ := indexEach_before hopen hown hbefore hshare
  obtain ⟨hrefused, hwritten⟩ := index_of_unwritable hopen₁ (hsame ▸ hown) htext hfits hlong
  have hindex : s₁.index e = (.error (.unwritable (.tooManyDigits none)), (s₁.index e).2) :=
    Prod.ext hrefused rfl
  rw [indexEach_append, heach, ok_andThen, indexEach, hindex]
  exact ⟨rfl, hwritten⟩

/-- No record comes of a list with an element that cannot be written. -/
theorem indexBatch_of_unwritable {e : Element} (he : e ∈ es) (hlong : ¬ e.Writable) :
    ∃ f, (s.indexBatch es).1 = .error f ∧
      (s.indexBatch es).2.store.written.records = s.store.written.records ∧
      (s.indexBatch es).2.store.written.ids = s.store.written.ids := by
  rcases hrun : s.indexBatch es with ⟨result, s'⟩
  cases result with
  | ok ids => exact absurd ((indexBatch_ok hrun).2.1.1 e he).2 hlong
  | error f =>
    obtain ⟨-, store, asked, drawn, rfl, -, hleaves, -⟩ := indexBatch_error hrun
    exact ⟨f, rfl, hleaves.records_eq⟩

/-- With a provider that goes by the text alone and keeps to one length, elements of which no two
have one cache key and two texts come to the same whether they are indexed together or one by one: the
same ids, the same records in the same order, the same entries of the cache. This is so in every store,
as long as all lines fit and all elements can be written. A list with a line that does not fit is
refused and changes nothing, and a list with an element that cannot be written leaves no record; one by
one, the elements before that one are indexed. -/
theorem indexBatch_agrees_with_indexEach {reply : String → Vec α} {d : Nat}
    (hreply : ∀ text, (reply text).length = d) {limit : Nat} {s : Service α τ}
    (hembedder : s.embedder = ⟨some fun _ text => .ok (reply text), limit⟩) {es : List Element}
    (htexts : ∀ e ∈ es, e.text ≠ "") (hshare : KeysShareText es) :
    ((∀ e ∈ es, KeyFits e) → (∀ e ∈ es, e.Writable) →
        (s.store.isOpen = true → (s.indexBatch es).1 = .ok (s.nextIds es.length)) ∧
        (s.indexEach es).1 = (s.indexBatch es).1 ∧
        Store.Same (s.indexEach es).2.store (s.indexBatch es).2.store) ∧
      ∀ before e after, es = before ++ e :: after → (∀ e' ∈ before, KeyFits e') →
        (∀ e' ∈ before, e'.Writable) → s.store.isOpen = true →
          (¬ KeyFits e → s.indexBatch es = (.error (.store .lineTooLarge), s) ∧
            s.indexEach es = (.error (.store .lineTooLarge), (s.indexEach before).2)) ∧
          (KeyFits e → ¬ e.Writable →
            (∃ f, (s.indexBatch es).1 = .error f ∧
              (s.indexBatch es).2.store.written.records = s.store.written.records ∧
              (s.indexBatch es).2.store.written.ids = s.store.written.ids) ∧
            (s.indexEach es).1 = .error (.unwritable (.tooManyDigits none)) ∧
            (s.indexEach es).2.store.written = (s.indexEach before).2.store.written) := by
  obtain ⟨own, hown⟩ := embed_replies hreply limit
  rw [← hembedder] at hown
  refine ⟨fun hfits hwritable => ?_, ?_⟩
  · have hes : ∀ e ∈ es, Indexable e := fun e he => ⟨htexts e he, hfits e he, hwritable e he⟩
    by_cases hsome : es = []
    · subst hsome
      exact ⟨fun _ => rfl, rfl, .refl _⟩
    cases hopen : s.store.isOpen with
    | false =>
      obtain ⟨hbatch, hstore⟩ := indexBatch_of_closed hopen hsome hown hes
      obtain ⟨heach, hsame⟩ := indexEach_of_closed hopen hsome hown hes
      refine ⟨nofun, heach.trans hbatch.symm, ?_⟩
      rw [hsame, hstore]
      exact .refl _
    | true =>
      obtain ⟨ids, s₁, hbatch⟩ : ∃ ids s₁, s.indexBatch es = (.ok ids, s₁) :=
        exists_indexBatch_ok hopen (fun asked text => ⟨own text, hown asked text⟩) hes
      obtain ⟨rfl, htogether⟩ := indexed_of_indexBatch_ok hsome hown hbatch
      obtain ⟨s₂, heach, honebyone⟩ := indexEach_ok hopen hown hes hshare (.inr hsome)
      have hwritten : Tables.Same s₂.store.written s₁.store.written :=
        honebyone.tables.trans htogether.tables.symm
      have hsaved : Tables.Same s₂.store.saved s₁.store.saved := by
        rw [honebyone.settled, htogether.settled]
        exact hwritten
      rw [hbatch, heach]
      exact ⟨fun _ => rfl, rfl, hsaved, hwritten, honebyone.setup.trans htogether.setup.symm⟩
  · rintro before e after rfl hfits hwritable hopen
    have hbefore : ∀ e' ∈ before, Indexable e' := fun e' he' =>
      ⟨htexts e' (List.mem_append_left _ he'), hfits e' he', hwritable e' he'⟩
    have hshare' : KeysShareText before := hshare.subset (List.subset_append_left _ _)
    have htext : e.text ≠ "" := htexts e (by simp)
    refine ⟨fun hlarge => ⟨indexBatch_of_large hopen htexts (by simp) hlarge,
      indexEach_of_large hopen hown hbefore hshare' htext hlarge⟩, fun hfit hlong => ?_⟩
    exact ⟨indexBatch_of_unwritable (by simp) hlong,
      indexEach_of_unwritable hopen hown hbefore hshare' htext hfit hlong⟩

private def oneReplyService : Service Float Int where
  store := ((Store.empty 10).cache 0 ⟨"h", "f", 1⟩ [9]).2
  embedder := ⟨some fun _ _ => .ok [1], 100⟩
  ids := fun n => String.ofList (List.replicate n 'a')
  now := 5

private def lineElement (name : String) (line : Int) : Element :=
  ⟨⟨"a.js", line, name, none, some "h", none⟩, "function " ++ name ++ "() {}"⟩

/-- A key that occurs twice is asked for once or twice, but cached alike. -/
theorem indexBatch_agrees_with_indexEach_repeated :
    let es := [lineElement "f" 1, lineElement "g" 2, lineElement "g" 2]
    (∀ e ∈ es, e.text ≠ "") ∧ KeysShareText es ∧ (∀ e ∈ es, KeyFits e) ∧
      (∀ e ∈ es, e.Writable) ∧ (oneReplyService.indexEach es).1 = .ok ["", "a", "aa"] ∧
      Store.Same (oneReplyService.indexEach es).2.store (oneReplyService.indexBatch es).2.store ∧
      (oneReplyService.indexBatch es).2.asked.length = 2 ∧
      (oneReplyService.indexEach es).2.asked.length = 1 := by
  intro es
  have htexts : ∀ e ∈ es, e.text ≠ "" := by decide
  have hshare : KeysShareText es := by decide
  have hfits : ∀ e ∈ es, KeyFits e := by
    simp [es, KeyFits, lineElement, Metadata.cacheKey, Metadata.keyWith, fits]
  have hwritable : ∀ e ∈ es, e.Writable := by decide
  obtain ⟨hids, heach, hstore⟩ :=
    (indexBatch_agrees_with_indexEach (s := oneReplyService) (fun _ => rfl) rfl htexts hshare).1
      hfits hwritable
  exact ⟨htexts, hshare, hfits, hwritable, heach.trans (hids rfl), hstore, by decide +kernel,
    by decide +kernel⟩

/-- Of a line that fits and one that does not, the first is indexed alone and not in a list. -/
theorem indexBatch_differs_at_large_line :
    let es := [lineElement "g" 2, lineElement "g" 0x8000000000000000]
    (∀ e ∈ es, e.text ≠ "") ∧ KeysShareText es ∧
      (oneReplyService.indexBatch es).2.store.all.1.map List.length = .ok 0 ∧
      (oneReplyService.indexEach es).2.store.all.1.map List.length = .ok 1 := by
  intro es
  exact ⟨by decide, by decide, rfl, rfl⟩

end Service

end CodeTwins
