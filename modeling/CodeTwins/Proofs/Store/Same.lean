import CodeTwins.Proofs.Store.Interruption
import CodeTwins.Proofs.Store.Settled

/-!
# Stores that hold the same

Two stores hold the same if they have the same records in the same order and the same entries under
every cache key, in what is saved and in what is written: how the entries of different keys are
ordered shows in no answer. Batches that come to the same per key keep tables the same.
-/
namespace CodeTwins

namespace Store

variable {ε ν τ : Type}

theorem lastVector_eq_none_iff {entries : List (CacheKey × ν)} {key : CacheKey} :
    lastVector entries key = none ↔ ∀ v, (key, v) ∉ entries := by
  simp only [lastVector, Option.map_eq_none_iff, List.getLast?_eq_none_iff, List.filter_eq_nil_iff,
    beq_iff_eq]
  constructor
  · intro h v hv
    exact h (key, v) hv rfl
  · rintro h ⟨key', v⟩ hv rfl
    exact h v hv

theorem mem_of_lastVector_eq {entries : List (CacheKey × ν)} {key : CacheKey} {v : ν}
    (h : lastVector entries key = some v) : (key, v) ∈ entries := by
  obtain ⟨⟨key', v'⟩, hget, rfl⟩ := Option.map_eq_some_iff.mp h
  obtain ⟨hmem, hkey⟩ := List.mem_filter.mp (List.mem_of_getLast? hget)
  obtain rfl : key' = key := by simpa using hkey
  exact hmem

theorem lastVector_of_mem {entries : List (CacheKey × ν)} {key : CacheKey} {v : ν}
    (hv : (key, v) ∈ entries) (hsame : ∀ v', (key, v') ∈ entries → v' = v) :
    lastVector entries key = some v := by
  cases hlast : lastVector entries key with
  | none => exact absurd hv (lastVector_eq_none_iff.mp hlast v)
  | some v' => rw [hsame v' (mem_of_lastVector_eq hlast)]

namespace Tables

/-- The same records in the same order, and the same entries of the cache under every key. -/
structure Same (t t' : Tables ε ν τ) : Prop where
  records : t.records = t'.records
  ids : t.ids = t'.ids
  entries : ∀ key, t.entriesOf key = t'.entriesOf key

namespace Same

variable {t t' t'' : Tables ε ν τ}

theorem refl (t : Tables ε ν τ) : Same t t :=
  ⟨rfl, rfl, fun _ => rfl⟩

theorem symm (h : Same t t') : Same t' t :=
  ⟨h.records.symm, h.ids.symm, fun key => (h.entries key).symm⟩

theorem trans (h : Same t t') (h' : Same t' t'') : Same t t'' :=
  ⟨h.records.trans h'.records, h.ids.trans h'.ids,
    fun key => (h.entries key).trans (h'.entries key)⟩

private theorem put (h : Same t t') (r : Record ε ν) : Same (t.put r) (t'.put r) where
  records := by simp only [Tables.put, h.records]
  ids := by rw [ids_put, ids_put, h.ids]
  entries := h.entries

theorem putAll (h : Same t t') (rs : List (Record ε ν)) : Same (t.putAll rs) (t'.putAll rs) := by
  induction rs generalizing t t' with
  | nil => exact h
  | cons r rs ih => exact ih (h.put r)

/-- Batches that leave the same under every key keep tables the same. -/
theorem cacheAllUntil (h : Same t t') {expires : τ} {entries entries' : List (CacheKey × ν)}
    (hentries : ∀ key, (t.cacheAllUntil expires entries).entriesOf key =
      (t'.cacheAllUntil expires entries').entriesOf key) :
    Same (t.cacheAllUntil expires entries) (t'.cacheAllUntil expires entries') where
  records := by simp [h.records]
  ids := by simp [h.ids]
  entries := hentries

theorem cacheAllUntil_same (h : Same t t') (expires : τ) (entries : List (CacheKey × ν)) :
    Same (t.cacheAllUntil expires entries) (t'.cacheAllUntil expires entries) :=
  h.cacheAllUntil fun key => by
    rw [entriesOf_cacheAllUntil, entriesOf_cacheAllUntil, h.entries key]

end Same

theorem putAll_append (t : Tables ε ν τ) (rs more : List (Record ε ν)) :
    t.putAll (rs ++ more) = (t.putAll rs).putAll more :=
  List.foldl_append

private theorem cacheUntil_putAll (t : Tables ε ν τ) (rs : List (Record ε ν)) (expires : τ)
    (key : CacheKey) (v : ν) :
    (t.putAll rs).cacheUntil expires key v = (t.cacheUntil expires key v).putAll rs := by
  induction rs generalizing t with
  | nil => rfl
  | cons r rs ih => exact ih (t.put r)

theorem cacheAllUntil_putAll (t : Tables ε ν τ) (rs : List (Record ε ν)) (expires : τ)
    (entries : List (CacheKey × ν)) :
    (t.putAll rs).cacheAllUntil expires entries = (t.cacheAllUntil expires entries).putAll rs := by
  induction entries generalizing t with
  | nil => rfl
  | cons entry entries ih =>
    have hnext := ih (t.cacheUntil expires entry.1 entry.2)
    rw [← cacheUntil_putAll] at hnext
    exact hnext

theorem cacheAllUntil_append (t : Tables ε ν τ) (expires : τ) (entries more : List (CacheKey × ν)) :
    t.cacheAllUntil expires (entries ++ more) =
      (t.cacheAllUntil expires entries).cacheAllUntil expires more :=
  List.foldl_append

theorem cached?_eq_find? [LT τ] [DecidableRel (α := τ) (· < ·)] (t : Tables ε ν τ) (now : τ)
    (key : CacheKey) : t.cached? now key =
      ((t.entriesOf key).find? fun e => decide (now < e.expires)).map (·.vector) := by
  simp only [cached?, entriesOf, List.find?_filter, Bool.decide_and, Bool.decide_eq_true]

@[simp] theorem entriesOf_putAll (t : Tables ε ν τ) (rs : List (Record ε ν)) (key : CacheKey) :
    (t.putAll rs).entriesOf key = t.entriesOf key := by
  rw [entriesOf, entriesOf, cache_putAll]

end Tables

/-- The same tables, saved and written, in stores that are set up alike. -/
structure Same (s s' : Store ε ν τ) : Prop where
  saved : Tables.Same s.saved s'.saved
  written : Tables.Same s.written s'.written
  setup : s.setup = s'.setup

theorem Same.refl (s : Store ε ν τ) : Same s s :=
  ⟨.refl _, .refl _, rfl⟩

section Closed

variable {s : Store ε ν τ}

private theorem transact_of_closed {β : Type} (h : s.isOpen = false)
    (f : Tables ε ν τ → Tables ε ν τ × β) : s.transact f = (.error .closed, s) := by
  simp [transact, h]

theorem snd_putAll_of_closed (h : s.isOpen = false) (rs : List (Record ε ν)) :
    (s.putAll rs).2 = s := by
  unfold putAll
  rw [transact_of_closed h]
  split <;> rfl

theorem snd_cacheAll_of_closed [Add τ] (h : s.isOpen = false) (now : τ)
    (entries : List (CacheKey × ν)) : (s.cacheAll now entries).2 = s := by
  unfold cacheAll
  rw [h]
  split <;> rfl

theorem snd_cachedAll_of_closed [LT τ] [DecidableRel (α := τ) (· < ·)] (h : s.isOpen = false)
    (now : τ) (keys : List (Option CacheKey)) : (s.cachedAll now keys).2 = s := by
  unfold cachedAll
  rw [h]
  split <;> rfl

end Closed

theorem putAll_some_ok {s s' : Store ε ν τ} {rs : List (Record ε ν)} (hrs : rs ≠ [])
    (h : s.putAll rs = (.ok (), s')) : s.isOpen = true ∧ s'.Settled := by
  unfold putAll at h
  rw [if_neg (by simpa using hrs)] at h
  unfold transact at h
  split at h
  case isTrue hopen =>
    cases h
    exact ⟨hopen, rfl⟩
  case isFalse => cases h

end Store

end CodeTwins
