import CodeTwins.Store.Basic
import CodeTwins.Proofs.Store.Tables

/-!
# Runs of a store

A run is a list of operations, each with the moment at which it takes place. Besides what the store
offers, a record may be lost behind its back. What is proved here of the operations is what they
leave alone: retention and openness always, the records wherever only the cache is concerned.
-/
namespace CodeTwins.Store

variable {ε ν τ β : Type}

/-- An operation of a store, or the loss of a record. -/
inductive Op (ε ν : Type) where
  | put (r : Record ε ν)
  | putAll (rs : List (Record ε ν))
  | get (id : String)
  | all
  | clear
  | vanish (id : String)
  | cache (key : CacheKey) (vector : ν)
  | cacheAll (entries : List (CacheKey × ν))
  | cacheRows (rows : List (CacheKey (Option String) × ν))
  | cached (key : CacheKey)
  | cachedAll (keys : List (Option CacheKey))
  | purge
  | stats

/-- How long the cache keeps a vector, and whether the store is open. -/
def setup (s : Store ε ν τ) : τ × Bool :=
  (s.ttl, s.isOpen)

theorem isOpen_of_setup {s s' : Store ε ν τ} (h : s'.setup = s.setup) : s'.isOpen = s.isOpen :=
  congrArg Prod.snd h

theorem ttl_of_setup {s s' : Store ε ν τ} (h : s'.setup = s.setup) : s'.ttl = s.ttl :=
  congrArg Prod.fst h

theorem eq_of_parts {s s' : Store ε ν τ} (hsaved : s.saved = s'.saved)
    (hwritten : s.written = s'.written) (hsetup : s.setup = s'.setup) : s = s' := by
  obtain ⟨saved, written, ttl, isOpen⟩ := s
  obtain ⟨saved', written', ttl', isOpen'⟩ := s'
  obtain ⟨rfl, rfl⟩ := Prod.mk.inj hsetup
  obtain rfl : saved = saved' := hsaved
  obtain rfl : written = written' := hwritten
  rfl

theorem transact_of_open {s : Store ε ν τ} (h : s.isOpen = true)
    (f : Tables ε ν τ → Tables ε ν τ × β) :
    s.transact f =
      (.ok (f s.written).2, { s with saved := (f s.written).1, written := (f s.written).1 }) := by
  simp [transact, h]

theorem written_transact (s : Store ε ν τ) (f : Tables ε ν τ → Tables ε ν τ × β) :
    (s.transact f).2.written = if s.isOpen then (f s.written).1 else s.written := by
  unfold transact
  split <;> rfl

/-- A transaction that only removes rows leaves no others. -/
theorem mem_of_mem_transact {s : Store ε ν τ} {f : Tables ε ν τ → Tables ε ν τ × β}
    (hrecords : ∀ t, ∀ r ∈ (f t).1.records, r ∈ t.records)
    (hcache : ∀ t, ∀ entry ∈ (f t).1.cache, entry ∈ t.cache) :
    (∀ r ∈ (s.transact f).2.written.records, r ∈ s.written.records) ∧
      ∀ entry ∈ (s.transact f).2.written.cache, entry ∈ s.written.cache := by
  rw [written_transact]
  split
  · exact ⟨hrecords _, hcache _⟩
  · exact ⟨fun _ hr => hr, fun _ hentry => hentry⟩

@[simp] theorem setup_transact (s : Store ε ν τ) (f : Tables ε ν τ → Tables ε ν τ × β) :
    (s.transact f).2.setup = s.setup := by
  unfold transact
  split <;> rfl

@[simp] theorem setup_refuse (s : Store ε ν τ) (column : String) :
    (s.refuse (β := β) column).2.setup = s.setup := by
  unfold refuse
  split <;> rfl

@[simp] theorem setup_putAll (s : Store ε ν τ) (rs : List (Record ε ν)) :
    (s.putAll rs).2.setup = s.setup := by
  unfold putAll
  split
  · rfl
  · exact setup_transact s _

section Cache

variable [LT τ] [DecidableRel (α := τ) (· < ·)]

@[simp] theorem setup_cachedAll (s : Store ε ν τ) (now : τ) (keys : List (Option CacheKey)) :
    (s.cachedAll now keys).2.setup = s.setup := by
  unfold cachedAll
  split_ifs <;> first | rfl | exact setup_transact s _

@[simp] theorem snd_cached? (s : Store ε ν τ) (now : τ) (key : CacheKey) :
    (s.cached? now key).2 = (s.cachedAll now [some key]).2 := rfl

omit [LT τ] [DecidableRel (α := τ) (· < ·)]

variable [Add τ]

@[simp] theorem setup_cacheAll (s : Store ε ν τ) (now : τ) (entries : List (CacheKey × ν)) :
    (s.cacheAll now entries).2.setup = s.setup := by
  unfold cacheAll
  split_ifs <;> first | rfl | exact setup_transact s _

@[simp] theorem setup_cacheRows (s : Store ε ν τ) (now : τ)
    (rows : List (CacheKey (Option String) × ν)) :
    (s.cacheRows now rows).2.setup = s.setup := by
  unfold cacheRows
  split
  · exact setup_refuse s _
  · exact setup_cacheAll s now _

end Cache

/-- Every table of the second store has the records and ids of a table of the first. -/
def RecordsFrom (s s' : Store ε ν τ) : Prop :=
  ∀ t' ∈ [s'.saved, s'.written], ∃ t ∈ [s.saved, s.written], t'.records = t.records ∧ t'.ids = t.ids

private theorem RecordsFrom.refl (s : Store ε ν τ) : RecordsFrom s s :=
  fun t ht => ⟨t, ht, rfl, rfl⟩

theorem recordsFrom_transact (s : Store ε ν τ) {f : Tables ε ν τ → Tables ε ν τ × β}
    (hf : ∀ t, (f t).1.records = t.records ∧ (f t).1.ids = t.ids) :
    RecordsFrom s (s.transact f).2 := by
  unfold transact
  split
  · intro t' ht'
    have ht : t' = (f s.written).1 := by simpa using ht'
    exact ⟨s.written, by simp, by rw [ht]; exact hf s.written⟩
  · exact .refl s

private theorem recordsFrom_refuse (s : Store ε ν τ) (column : String) :
    RecordsFrom s (s.refuse (β := β) column).2 := by
  unfold refuse
  split
  · intro t' ht'
    exact ⟨s.saved, by simp, by simp_all⟩
  · exact .refl s

section Cache

variable [LT τ] [DecidableRel (α := τ) (· < ·)]

theorem recordsFrom_cachedAll (s : Store ε ν τ) (now : τ) (keys : List (Option CacheKey)) :
    RecordsFrom s (s.cachedAll now keys).2 := by
  unfold cachedAll
  split_ifs
  · exact .refl s
  · exact .refl s
  · exact .refl s
  · exact recordsFrom_transact s fun t => ⟨rfl, rfl⟩

omit [LT τ] [DecidableRel (α := τ) (· < ·)]

variable [Add τ]

theorem recordsFrom_cacheAll (s : Store ε ν τ) (now : τ) (entries : List (CacheKey × ν)) :
    RecordsFrom s (s.cacheAll now entries).2 := by
  unfold cacheAll
  split_ifs
  · exact .refl s
  · exact .refl s
  · exact recordsFrom_transact s fun t => by simp
  · -- the entries before the one that does not fit are written and not saved
    intro t' ht'
    rcases List.mem_cons.mp ht' with rfl | ht'
    · exact ⟨s.saved, by simp, rfl, rfl⟩
    · exact ⟨s.written, by simp, by simp_all⟩

theorem recordsFrom_cacheRows (s : Store ε ν τ) (now : τ)
    (rows : List (CacheKey (Option String) × ν)) :
    RecordsFrom s (s.cacheRows now rows).2 := by
  unfold cacheRows
  split
  · exact recordsFrom_refuse s _
  · exact recordsFrom_cacheAll s now _

end Cache

variable [LT τ] [DecidableRel (α := τ) (· < ·)] [Add τ]

/-- The store after an operation at a moment. -/
def Op.apply (now : τ) (s : Store ε ν τ) : Op ε ν → Store ε ν τ
  | put r => (s.put r).2
  | putAll rs => (s.putAll rs).2
  | get id => (s.get? id).2
  | all => s.all.2
  | clear => s.clear.2
  | vanish id => s.vanish id
  | cache key vector => (s.cache now key vector).2
  | cacheAll entries => (s.cacheAll now entries).2
  | cacheRows rows => (s.cacheRows now rows).2
  | cached key => (s.cached? now key).2
  | cachedAll keys => (s.cachedAll now keys).2
  | purge => (s.purge now).2
  | stats => (s.stats now).2

/-- The store after a run. -/
def run (s : Store ε ν τ) (ops : List (τ × Op ε ν)) : Store ε ν τ :=
  ops.foldl (fun s (now, op) => op.apply now s) s

theorem run_nil (s : Store ε ν τ) : run s [] = s := rfl

private theorem run_cons (s : Store ε ν τ) (now : τ) (op : Op ε ν) (ops : List (τ × Op ε ν)) :
    run s ((now, op) :: ops) = run (op.apply now s) ops := rfl

@[simp] theorem setup_apply (now : τ) (s : Store ε ν τ) (op : Op ε ν) :
    (op.apply now s).setup = s.setup := by
  cases op <;> simp [Op.apply, put, get?, all, clear, cache, purge, stats]
  rfl

@[simp] theorem setup_run (s : Store ε ν τ) (ops : List (τ × Op ε ν)) :
    (run s ops).setup = s.setup := by
  induction ops generalizing s with
  | nil => rfl
  | cons timed ops ih => rw [run_cons, ih, setup_apply]

end CodeTwins.Store
