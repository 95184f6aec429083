import CodeTwins.Service.Indexing
import CodeTwins.Proofs.Element.Encode
import CodeTwins.Proofs.Embedding.Embedder

/-!
# Vectors assigned to elements

Each element of a list is assigned the vector that is cached for it, or else the embedding of its
text, which is asked for in the order of the elements. To look up all elements, embed those for which
nothing was found and fill the gaps assigns exactly these vectors.
-/
namespace CodeTwins.Service

open CodeTwins.Embedding

variable {α : Type}

/-- What is to be cached: the vectors of elements that have a key and no live entry. -/
def newEntries (live : Element → Option (Vec α)) (es : List Element) (vs : List (Vec α)) :
    List (CacheKey × Vec α) :=
  (es.zip vs).filterMap fun (e, v) =>
    if (live e).isSome then none else e.metadata.cacheKey.map (·, v)

theorem missing_cons_none {β : Type} (e : Element) (es : List Element) (found : List (Option β)) :
    missing (e :: es) (none :: found) = e :: missing es found := rfl

theorem missing_cons_some {β : Type} (e : Element) (v : β) (es : List Element)
    (found : List (Option β)) : missing (e :: es) (some v :: found) = missing es found := rfl

theorem mem_of_mem_missing {β : Type} {e : Element} {es : List Element} {found : List (Option β)}
    (h : e ∈ missing es found) : e ∈ es := by
  obtain ⟨pair, hpair, rfl⟩ := List.mem_map.mp h
  exact (List.of_mem_zip (List.mem_filter.mp hpair).1).1

theorem key_of_mem_cacheEntries {entry : CacheKey × Vec α} {es : List Element}
    {vs : List (Vec α)} (h : entry ∈ cacheEntries es vs) :
    ∃ e ∈ es, e.metadata.cacheKey = some entry.1 := by
  obtain ⟨⟨e, v⟩, hpair, hentry⟩ := List.mem_filterMap.mp h
  obtain ⟨key, hkey, rfl⟩ := Option.map_eq_some_iff.mp hentry
  exact ⟨e, (List.of_mem_zip hpair).1, hkey⟩

theorem lineNumber_of_cacheKey {e : Element} {key : CacheKey}
    (h : e.metadata.cacheKey = some key) : key.lineNumber = e.metadata.lineNumber := by
  unfold Metadata.cacheKey Metadata.keyWith at h
  split at h
  · split at h
    · cases h
      rfl
    · cases h
  · cases h

/-- A line that fits into the tables can be written. -/
theorem writable_of_fits {e : Element} {key : CacheKey} (hkey : e.metadata.cacheKey = some key)
    (hfits : Store.fits key.lineNumber = true) : e.Writable := by
  refine Numeral.isShort_of_natAbs_lt ?_
  rw [lineNumber_of_cacheKey hkey, Store.fits, Bool.and_eq_true, decide_eq_true_iff,
    decide_eq_true_iff] at hfits
  omega

theorem mem_newEntries {live : Element → Option (Vec α)} {es : List Element} {vs : List (Vec α)}
    {key : CacheKey} {v : Vec α} (h : (key, v) ∈ newEntries live es vs) :
    ∃ e, (e, v) ∈ es.zip vs ∧ e.metadata.cacheKey = some key := by
  obtain ⟨⟨e, v'⟩, hpair, hentry⟩ := List.mem_filterMap.mp h
  simp only at hentry
  split at hentry
  · cases hentry
  · obtain ⟨key', hkey, heq⟩ := Option.map_eq_some_iff.mp hentry
    cases heq
    exact ⟨e, hpair, hkey⟩

variable [Scalar α]

/-- The vectors of elements, with what the provider has been asked before and after. -/
inductive Assigned (embedder : Embedder α) (live : Element → Option (Vec α)) :
    List String → List Element → List (Vec α) → List String → Prop where
  | nil {asked : List String} : Assigned embedder live asked [] [] asked
  | cached {e : Element} {v : Vec α} {asked asked' : List String} {es : List Element}
      {vs : List (Vec α)} (hlive : live e = some v)
      (rest : Assigned embedder live asked es vs asked') :
      Assigned embedder live asked (e :: es) (v :: vs) asked'
  | embedded {e : Element} {v : Vec α} {asked asked₁ asked' : List String} {es : List Element}
      {vs : List (Vec α)} (hlive : live e = none)
      (hv : embedder.embed asked e.text = (.ok v, asked₁))
      (rest : Assigned embedder live asked₁ es vs asked') :
      Assigned embedder live asked (e :: es) (v :: vs) asked'

variable {embedder : Embedder α} {live : Element → Option (Vec α)} {asked asked' : List String}
  {es : List Element}

theorem Assigned.length_eq {vs : List (Vec α)} (h : Assigned embedder live asked es vs asked') :
    vs.length = es.length := by
  induction h with
  | nil => rfl
  | cached _ _ ih => rw [List.length_cons, List.length_cons, ih]
  | embedded _ _ _ ih => rw [List.length_cons, List.length_cons, ih]

/-- An assigned vector is live, or else the embedding of the text of its element. -/
theorem Assigned.live_or_embedded {vs : List (Vec α)}
    (h : Assigned embedder live asked es vs asked') {e : Element} {v : Vec α}
    (hv : (e, v) ∈ es.zip vs) :
    live e = some v ∨ ∃ asked₁, (embedder.embed asked₁ e.text).1 = .ok v := by
  induction h with
  | nil => cases hv
  | cached hlive _ ih =>
    rcases List.mem_cons.mp hv with heq | hv
    · cases heq
      exact .inl hlive
    · exact ih hv
  | embedded _ hembed _ ih =>
    rcases List.mem_cons.mp hv with heq | hv
    · cases heq
      exact .inr ⟨_, congrArg Prod.fst hembed⟩
    · exact ih hv

/-- Embedding the missing elements and filling the gaps assigns the vectors. -/
theorem assigned_of_embedEach {fresh : List (Vec α)}
    (h : embedder.embedEach asked ((missing es (es.map live)).map (·.text)) = (.ok fresh, asked')) :
    Assigned embedder live asked es (fill (es.map live) fresh) asked' ∧
      cacheEntries (missing es (es.map live)) fresh =
        newEntries live es (fill (es.map live) fresh) := by
  induction es generalizing asked fresh with
  | nil =>
    obtain ⟨rfl, rfl⟩ : [] = fresh ∧ asked = asked' :=
      (Prod.ext_iff.mp h).imp Except.ok.inj id
    exact ⟨.nil, rfl⟩
  | cons e es ih =>
    rw [List.map_cons] at h ⊢
    cases hlive : live e with
    | some v =>
      rw [hlive, missing_cons_some] at h
      obtain ⟨hrest, hentries⟩ := ih h
      refine ⟨.cached hlive hrest, ?_⟩
      rw [missing_cons_some, hentries]
      simp [newEntries, fill, hlive]
    | none =>
      rw [hlive, missing_cons_none, List.map_cons] at h
      obtain ⟨v, asked₁, rest, hv, hrest, rfl⟩ := Embedder.embedEach_cons_ok h
      obtain ⟨hrest, hentries⟩ := ih hrest
      refine ⟨.embedded hlive hv hrest, ?_⟩
      rw [missing_cons_none]
      simp only [cacheEntries, newEntries, fill, List.zip_cons_cons, List.filterMap_cons, hlive]
        at hentries ⊢
      rw [hentries]
      rfl

/-- An embedding that fails is that of the first missing element without one. -/
theorem unassigned_of_embedEach {error : Error}
    (h : embedder.embedEach asked ((missing es (es.map live)).map (·.text)) =
      (.error error, asked')) :
    ∃ before e after vs asked₁, es = before ++ e :: after ∧
      Assigned embedder live asked before vs asked₁ ∧ live e = none ∧
      (embedder.embed asked₁ e.text).1 = .error error := by
  induction es generalizing asked with
  | nil => cases congrArg Prod.fst h
  | cons e es ih =>
    rw [List.map_cons] at h
    cases hlive : live e with
    | some v =>
      rw [hlive, missing_cons_some] at h
      obtain ⟨before, e', after, vs, asked₁, rfl, hbefore, hrest⟩ := ih h
      exact ⟨e :: before, e', after, v :: vs, asked₁, rfl, .cached hlive hbefore, hrest⟩
    | none =>
      rw [hlive, missing_cons_none, List.map_cons] at h
      rcases Embedder.embedEach_cons_error h with hfail | ⟨v, asked₀, hv, hrest⟩
      · exact ⟨[], e, es, [], asked, rfl, .nil, hlive, congrArg Prod.fst hfail⟩
      · obtain ⟨before, e', after, vs, asked₁, rfl, hbefore, hrest⟩ := ih hrest
        exact ⟨e :: before, e', after, v :: vs, asked₁, rfl, .embedded hlive hv hbefore, hrest⟩

end CodeTwins.Service
