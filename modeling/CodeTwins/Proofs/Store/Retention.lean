import CodeTwins.Proofs.Store.Outcome
import Mathlib.Data.Finset.Card
import Mathlib.Data.List.DropRight
import Mathlib.Order.Defs.LinearOrder

/-!
# The cache of a run

A lookup gives the vector of the last write of its key until the retention window of that write is
over. The run decides over this only by its writes: lookups, purges and all that happens to the
records leave no trace in it.
-/
namespace CodeTwins.Store

variable {ε ν τ : Type}

/-- What befalls the cache, and when. -/
inductive CacheEvent (ν τ : Type) where
  | wrote (key : CacheKey) (vector : ν) (time : τ)
  | purged (time : τ)

namespace CacheEvent

def writes (key : CacheKey) : CacheEvent ν τ → Bool
  | wrote other _ _ => other == key
  | purged _ => false

/-- The vector that is written, and the moment. -/
def content : CacheEvent ν τ → Option (ν × τ)
  | wrote _ vector time => some (vector, time)
  | purged _ => none

end CacheEvent

open CacheEvent

/-- The last write of a key: its vector and its moment. -/
def lastWrite (h : List (CacheEvent ν τ)) (key : CacheKey) : Option (ν × τ) :=
  (h.filter (·.writes key)).getLast?.bind content

/-- The events after the last write of a key. -/
def sinceWrite (h : List (CacheEvent ν τ)) (key : CacheKey) : List (CacheEvent ν τ) :=
  h.rtakeWhile fun e => !e.writes key

section Retention

variable [LT τ] [Add τ]

/-- The vector of the last write of a key, if its window is not over. -/
def liveVector [DecidableRel (α := τ) (· < ·)] (ttl : τ) (h : List (CacheEvent ν τ)) (now : τ)
    (key : CacheKey) : Option ν :=
  (lastWrite h key).bind fun (vector, time) => if now < time + ttl then some vector else none

/-- No purge since the last write of a key, at the given moment, has come after its window. -/
def Unpurged (ttl : τ) (h : List (CacheEvent ν τ)) (key : CacheKey) (time : τ) : Prop :=
  ∀ p, purged p ∈ sinceWrite h key → p < time + ttl

/-- The last write of the key is expired and not yet purged. -/
def Stale (ttl : τ) (h : List (CacheEvent ν τ)) (now : τ) (key : CacheKey) : Prop :=
  ∃ vector time, lastWrite h key = some (vector, time) ∧ ¬ now < time + ttl ∧
    Unpurged ttl h key time

end Retention

private theorem lastWrite_concat (h : List (CacheEvent ν τ)) (e : CacheEvent ν τ) (key : CacheKey) :
    lastWrite (h ++ [e]) key = if e.writes key then e.content else lastWrite h key := by
  cases hw : e.writes key <;> simp [lastWrite, List.filter_append, hw]

private theorem sinceWrite_concat (h : List (CacheEvent ν τ)) (e : CacheEvent ν τ) (key : CacheKey) :
    sinceWrite (h ++ [e]) key = if e.writes key then [] else sinceWrite h key ++ [e] := by
  cases hw : e.writes key <;> simp [sinceWrite, hw]

/-- Events that write nothing do not change what was written last. -/
theorem lastWrite_skip {skipped : List (CacheEvent ν τ)} {key : CacheKey}
    (hskip : ∀ e ∈ skipped, e.writes key = false) (h h' : List (CacheEvent ν τ)) :
    lastWrite (h ++ skipped ++ h') key = lastWrite (h ++ h') key := by
  have hnil : skipped.filter (·.writes key) = [] := by
    simpa [List.filter_eq_nil_iff] using hskip
  simp only [lastWrite, List.filter_append, hnil, List.append_nil]

section Retention

variable [LT τ] [Add τ] {ttl : τ} {h : List (CacheEvent ν τ)} {t t' : Tables ε ν τ}

private theorem unpurged_wrote {key key' : CacheKey} {vector : ν} {now time : τ} (hkey : key ≠ key') :
    Unpurged ttl (h ++ [wrote key vector now]) key' time ↔ Unpurged ttl h key' time := by
  simp [Unpurged, sinceWrite_concat, writes, hkey]

private theorem unpurged_purged {key : CacheKey} {now time : τ} :
    Unpurged ttl (h ++ [purged now]) key time ↔ Unpurged ttl h key time ∧ now < time + ttl := by
  simp only [Unpurged, sinceWrite_concat, writes, Bool.false_eq_true, if_false, List.mem_append,
    List.mem_singleton, purged.injEq]
  constructor
  · intro hp
    exact ⟨fun p hmem => hp p (.inl hmem), hp now (.inr rfl)⟩
  · rintro ⟨hp, hnow⟩ p (hmem | rfl)
    · exact hp p hmem
    · exact hnow

/-- Tables whose cache is what the events have left. -/
structure Caches (ttl : τ) (h : List (CacheEvent ν τ)) (t : Tables ε ν τ) : Prop where
  nodup : (t.cache.map (·.key)).Nodup
  mem : ∀ e, e ∈ t.cache ↔
    ∃ time, lastWrite h e.key = some (e.vector, time) ∧ Unpurged ttl h e.key time ∧
      e.expires = time + ttl

namespace Caches

private theorem empty : Caches ttl [] ({} : Tables ε ν τ) where
  nodup := List.nodup_nil
  mem e := by simp [lastWrite]

private theorem of_cache (ht : Caches ttl h t) (hcache : t'.cache = t.cache) : Caches ttl h t' where
  nodup := hcache ▸ ht.nodup
  mem e := hcache ▸ ht.mem e

private theorem cacheUntil (ht : Caches ttl h t) (key : CacheKey) (vector : ν) (now : τ) :
    Caches ttl (h ++ [wrote key vector now]) (t.cacheUntil (now + ttl) key vector) where
  nodup := by
    simp only [Tables.cacheUntil, List.map_append, List.map_cons, List.map_nil]
    refine List.nodup_append.mpr ⟨?_, by simp, ?_⟩
    · exact (ht.nodup.sublist (List.filter_sublist.map _))
    · intro other hother key' hkey'
      obtain ⟨e, he, rfl⟩ := List.mem_map.mp hother
      rw [List.mem_singleton.mp hkey']
      simpa using (List.mem_filter.mp he).2
  mem e := by
    simp only [Tables.cacheUntil, List.mem_append, List.mem_filter, List.mem_singleton]
    by_cases hkey : key = e.key
    · subst hkey
      have hunpurged : Unpurged ttl (h ++ [wrote e.key vector now]) e.key now := by
        simp [Unpurged, sinceWrite_concat, writes]
      simp only [lastWrite_concat, writes, content, BEq.rfl, if_true, bne_self_eq_false,
        Bool.false_eq_true, and_false, false_or, Option.some.injEq, Prod.mk.injEq]
      constructor
      · intro he
        exact ⟨now, ⟨(congrArg Entry.vector he).symm, rfl⟩, hunpurged, congrArg Entry.expires he⟩
      · rintro ⟨time, ⟨hv, rfl⟩, -, hexpires⟩
        rw [hv, ← hexpires]
    · have hne : e ≠ ⟨key, vector, now + ttl⟩ := fun he => hkey (by rw [he])
      simp only [unpurged_wrote hkey, lastWrite_concat, writes, beq_eq_false_iff_ne.mpr hkey, hne,
        Bool.false_eq_true, if_false, or_false]
      rw [ht.mem]
      simp [Ne.symm hkey]

private theorem cacheAllUntil (ht : Caches ttl h t) (entries : List (CacheKey × ν)) (now : τ) :
    Caches ttl (h ++ entries.map fun (key, vector) => wrote key vector now)
      (t.cacheAllUntil (now + ttl) entries) := by
  induction entries generalizing h t with
  | nil => simpa [Tables.cacheAllUntil] using ht
  | cons entry entries ih =>
    have hnext := ih (ht.cacheUntil entry.1 entry.2 now)
    rw [List.append_assoc] at hnext
    exact hnext

variable [DecidableRel (α := τ) (· < ·)]

private theorem purge (ht : Caches ttl h t) (now : τ) :
    Caches ttl (h ++ [purged now]) (t.purge now).1 where
  nodup := ht.nodup.sublist (List.filter_sublist.map _)
  mem e := by
    simp only [Tables.purge, List.mem_filter, decide_eq_true_eq, ht.mem, lastWrite_concat, writes,
      Bool.false_eq_true, if_false, unpurged_purged]
    constructor
    · rintro ⟨⟨time, hlast, hunpurged, hexpires⟩, hnow⟩
      exact ⟨time, hlast, ⟨hunpurged, hexpires ▸ hnow⟩, hexpires⟩
    · rintro ⟨time, hlast, ⟨hunpurged, hnow⟩, hexpires⟩
      exact ⟨⟨time, hlast, hunpurged, hexpires⟩, hexpires ▸ hnow⟩

private theorem purge_count (ht : Caches ttl h t) (now : τ) :
    ∃ stale : Finset CacheKey, (∀ key, key ∈ stale ↔ Stale ttl h now key) ∧
      (t.purge now).2 = stale.card := by
  let expired := t.cache.filter fun e => !decide (now < e.expires)
  have hnodup : (expired.map (·.key)).Nodup := ht.nodup.sublist (List.filter_sublist.map _)
  refine ⟨(expired.map (·.key)).toFinset, ?_, ?_⟩
  · intro key
    simp only [List.mem_toFinset, List.mem_map, expired, List.mem_filter, ht.mem]
    constructor
    · rintro ⟨e, ⟨⟨time, hlast, hunpurged, hexpires⟩, hnow⟩, rfl⟩
      exact ⟨e.vector, time, hlast, by simpa [hexpires] using hnow, hunpurged⟩
    · rintro ⟨vector, time, hlast, hnow, hunpurged⟩
      exact ⟨⟨key, vector, time + ttl⟩, ⟨⟨time, hlast, hunpurged, rfl⟩, by simpa using hnow⟩, rfl⟩
  · rw [List.toFinset_card_of_nodup hnodup, List.length_map, ← List.countP_eq_length_filter]
    rfl

end Caches

end Retention

/-- Once the purges lie in the past, a lookup gives the last write of the key while its window lasts:
what a purge has removed is over at every later moment. -/
theorem Caches.cached? [LinearOrder τ] [Add τ] {ttl now : τ} {h : List (CacheEvent ν τ)}
    {t : Tables ε ν τ} (ht : Caches ttl h t) (hpast : ∀ p, purged p ∈ h → p ≤ now)
    (key : CacheKey) : t.cached? now key = liveVector ttl h now key := by
  have hentry : ∀ e, e ∈ t.cache → e.key = key →
      ∃ time, lastWrite h key = some (e.vector, time) ∧ e.expires = time + ttl := by
    rintro e he rfl
    obtain ⟨time, hlast, -, hexpires⟩ := (ht.mem e).mp he
    exact ⟨time, hlast, hexpires⟩
  cases hfound : t.cache.find? fun e => e.key == key && decide (now < e.expires) with
  | none =>
    have hover : ∀ e ∈ t.cache, e.key = key → ¬ now < e.expires := by
      simpa [List.find?_eq_none] using hfound
    simp only [Tables.cached?, hfound, Option.map_none, liveVector]
    cases hlast : lastWrite h key with
    | none => rfl
    | some write =>
      obtain ⟨vector, time⟩ := write
      by_cases hlive : now < time + ttl
      · -- no purge can have removed the entry, so it would have been found
        have hunpurged : Unpurged ttl h key time := fun p hp =>
          lt_of_le_of_lt (hpast p (List.rtakeWhile_suffix _ _ |>.subset hp)) hlive
        have hmem := (ht.mem ⟨key, vector, time + ttl⟩).mpr ⟨time, hlast, hunpurged, rfl⟩
        exact absurd hlive (hover _ hmem rfl)
      · simp [hlive]
  | some e =>
    have hmatch : e.key = key ∧ now < e.expires := by simpa using List.find?_some hfound
    obtain ⟨time, hlast, hexpires⟩ := hentry e (List.mem_of_find?_eq_some hfound) hmatch.1
    simp [Tables.cached?, hfound, liveVector, hlast, ← hexpires, hmatch.2]

/-- The rows whose key lacks no text. -/
def completeRows (rows : List (CacheKey (Option String) × ν)) : List (CacheKey × ν) :=
  rows.filterMap fun (key, vector) => (completeKey key).map (·, vector)

private theorem completeKey_of_fits {key : CacheKey (Option String)}
    (hfit : fits key.lineNumber = true) :
    (∃ key', completeKey key = some key' ∧ fits key'.lineNumber = true ∧ rowFault key = none) ∨
      completeKey key = none ∧ ∃ column, rowFault key = some (.missing column) := by
  obtain ⟨hash, name, line⟩ := key
  cases hash <;> cases name <;> simp_all [completeKey, rowFault]

private theorem cacheRows_complete {rows : List (CacheKey (Option String) × ν)}
    (hfits : ∀ row ∈ rows, fits row.1.lineNumber = true)
    (hall : rows.all (fun row => (completeKey row.1).isSome) = true) :
    rows.findSome? (fun row => rowFault row.1) = none ∧
      (rows.map fun row => ((completeKey row.1).getD ⟨"", "", row.1.lineNumber⟩, row.2)) =
        completeRows rows ∧
      ∀ entry ∈ completeRows rows, fits entry.1.lineNumber = true := by
  induction rows with
  | nil => simp [completeRows]
  | cons row rows ih =>
    simp only [List.all_cons, Bool.and_eq_true] at hall
    obtain ⟨hfault, hrows, hentries⟩ := ih (fun r hr => hfits r (.tail _ hr)) hall.2
    rcases completeKey_of_fits (hfits row (.head _)) with ⟨key, hkey, hfit, hnone⟩ | ⟨hkey, -⟩
    · have hcons : completeRows (row :: rows) = (key, row.2) :: completeRows rows := by
        simp [completeRows, hkey]
      refine ⟨?_, ?_, ?_⟩
      · rw [List.findSome?_cons_of_isNone (by simp [hnone]), hfault]
      · rw [List.map_cons, hrows, hcons, hkey, Option.getD_some]
      · rw [hcons]
        exact List.forall_mem_cons.mpr ⟨hfit, hentries⟩
    · simp [hkey] at hall

private theorem cacheRows_incomplete {rows : List (CacheKey (Option String) × ν)}
    (hfits : ∀ row ∈ rows, fits row.1.lineNumber = true)
    (hall : ¬ rows.all (fun row => (completeKey row.1).isSome) = true) :
    ∃ column, rows.findSome? (fun row => rowFault row.1) = some (.missing column) := by
  induction rows with
  | nil => simp at hall
  | cons row rows ih =>
    rcases completeKey_of_fits (hfits row (.head _)) with ⟨key, hkey, -, hnone⟩ | ⟨-, column, hfault⟩
    · obtain ⟨column, hfault⟩ := ih (fun r hr => hfits r (.tail _ hr)) (by simpa [hkey] using hall)
      exact ⟨column, by simpa [hnone] using hfault⟩
    · exact ⟨column, by simp [hfault]⟩

/-- What an operation does to the cache. A batch in which a key lacks a text writes nothing. -/
def Op.cacheEvents (now : τ) : Op ε ν → List (CacheEvent ν τ)
  | cache key vector => [wrote key vector now]
  | cacheAll entries => entries.map fun (key, vector) => wrote key vector now
  | cacheRows rows =>
    if rows.all fun row => (completeKey row.1).isSome then
      (completeRows rows).map fun (key, vector) => wrote key vector now
    else []
  | purge => [purged now]
  | put _ | putAll _ | get _ | all | clear | vanish _ | cached _ | cachedAll _ | stats => []

/-- The operations that write to the cache. -/
def Op.writesCache : Op ε ν → Bool
  | cache _ _ | cacheAll _ | cacheRows _ => true
  | put _ | putAll _ | get _ | all | clear | vanish _ => false
  | cached _ | cachedAll _ | purge | stats => false

/-- The line numbers of all keys to be written fit into the tables. -/
def Op.Fits : Op ε ν → Prop
  | cache key _ => fits key.lineNumber = true
  | cacheAll entries => ∀ entry ∈ entries, fits entry.1.lineNumber = true
  | cacheRows rows => ∀ row ∈ rows, fits row.1.lineNumber = true
  | put _ | putAll _ | get _ | all | clear | vanish _ => True
  | cached _ | cachedAll _ | purge | stats => True

/-- What befalls the cache in a run. -/
def cacheHistory (ops : List (τ × Op ε ν)) : List (CacheEvent ν τ) :=
  ops.flatMap fun (now, op) => op.cacheEvents now

private theorem Op.not_writes_of_not_writesCache {op : Op ε ν} (hop : op.writesCache = false)
    (now : τ) (key : CacheKey) : ∀ e ∈ op.cacheEvents now, e.writes key = false := by
  cases op <;> simp_all [Op.writesCache, Op.cacheEvents, writes]

private theorem Op.time_of_purged {op : Op ε ν} {now p : τ} (hp : purged p ∈ op.cacheEvents now) :
    p = now := by
  cases op <;> simp_all [Op.cacheEvents]

/-- An open store whose cache, saved or not, is what the events have left. -/
structure CacheReflects [LT τ] [Add τ] (ttl : τ) (h : List (CacheEvent ν τ))
    (s : Store ε ν τ) : Prop where
  isOpen : s.isOpen = true
  keeps : s.ttl = ttl
  saved : Caches ttl h s.saved
  written : Caches ttl h s.written

namespace CacheReflects

variable [LT τ] [Add τ] {ttl : τ} {h h' : List (CacheEvent ν τ)} {s s' : Store ε ν τ}

private theorem transact {β : Type} (hs : CacheReflects ttl h s) {f : Tables ε ν τ → Tables ε ν τ × β}
    (hf : Caches ttl h' (f s.written).1) : CacheReflects ttl h' (s.transact f).2 := by
  rw [transact_of_open hs.isOpen]
  exact ⟨hs.isOpen, hs.keeps, hf, hf⟩

private theorem refuse {β : Type} (hs : CacheReflects ttl h s) (column : String) :
    CacheReflects ttl h (s.refuse (β := β) column).2 := by
  rw [Store.refuse, if_pos hs.isOpen]
  exact ⟨hs.isOpen, hs.keeps, hs.saved, hs.saved⟩

private theorem putAll (hs : CacheReflects ttl h s) (rs : List (Record ε ν)) :
    CacheReflects ttl h (s.putAll rs).2 := by
  unfold Store.putAll
  split
  · exact hs
  · exact hs.transact (hs.written.of_cache (Tables.cache_putAll _ rs))

private theorem cacheAll (hs : CacheReflects ttl h s) (now : τ) {entries : List (CacheKey × ν)}
    (hfits : ∀ entry ∈ entries, fits entry.1.lineNumber = true) :
    CacheReflects ttl (h ++ entries.map fun (key, vector) => wrote key vector now)
      (s.cacheAll now entries).2 := by
  have hall : entries.all (fun entry => fits entry.1.lineNumber) = true := by simpa using hfits
  simp only [Store.cacheAll, hs.isOpen, hall, Bool.not_true, Bool.false_eq_true, if_false, if_true]
  split
  · next hnil => simpa [List.isEmpty_iff.mp hnil] using hs
  · exact hs.transact (by simpa [hs.keeps] using hs.written.cacheAllUntil entries now)

private theorem cacheRows (hs : CacheReflects ttl h s) (now : τ)
    {rows : List (CacheKey (Option String) × ν)}
    (hfits : ∀ row ∈ rows, fits row.1.lineNumber = true) :
    CacheReflects ttl (h ++ (Op.cacheRows (ε := ε) rows).cacheEvents now)
      (s.cacheRows now rows).2 := by
  by_cases hall : rows.all (fun row => (completeKey row.1).isSome) = true
  · obtain ⟨hfault, hrows, hentries⟩ := cacheRows_complete hfits hall
    simp only [Store.cacheRows, hfault, hrows, Op.cacheEvents, if_pos hall]
    exact hs.cacheAll now hentries
  · obtain ⟨column, hfault⟩ := cacheRows_incomplete hfits hall
    simp only [Store.cacheRows, hfault, Op.cacheEvents, if_neg hall, List.append_nil]
    exact hs.refuse column

variable [DecidableRel (α := τ) (· < ·)]

private theorem cachedAll (hs : CacheReflects ttl h s) (now : τ) (keys : List (Option CacheKey)) :
    CacheReflects ttl h (s.cachedAll now keys).2 := by
  unfold Store.cachedAll
  split_ifs
  · exact hs
  · exact hs
  · exact hs
  · exact hs.transact hs.written

private theorem apply (hs : CacheReflects ttl h s) (now : τ) {op : Op ε ν} (hop : op.Fits) :
    CacheReflects ttl (h ++ op.cacheEvents now) (op.apply now s) := by
  cases op with
  | cache key vector =>
    have hentry : ∀ entry ∈ [(key, vector)], fits entry.1.lineNumber = true := by
      simpa [Op.Fits] using hop
    exact hs.cacheAll now hentry
  | cacheAll entries => exact hs.cacheAll now hop
  | cacheRows rows => exact hs.cacheRows now hop
  | purge => exact hs.transact (hs.written.purge now)
  | put r =>
    rw [Op.cacheEvents, List.append_nil]
    exact hs.putAll [r]
  | putAll rs =>
    rw [Op.cacheEvents, List.append_nil]
    exact hs.putAll rs
  | clear =>
    rw [Op.cacheEvents, List.append_nil]
    exact hs.transact (hs.written.of_cache (Tables.cache_clear _))
  | vanish id =>
    rw [Op.cacheEvents, List.append_nil]
    exact ⟨hs.isOpen, hs.keeps, hs.saved.of_cache rfl, hs.written.of_cache rfl⟩
  | get _ | all | stats =>
    rw [Op.cacheEvents, List.append_nil]
    exact hs.transact hs.written
  | cached key =>
    rw [Op.cacheEvents, List.append_nil, Op.apply, snd_cached?]
    exact hs.cachedAll now [some key]
  | cachedAll keys =>
    rw [Op.cacheEvents, List.append_nil]
    exact hs.cachedAll now keys

private theorem run (hs : CacheReflects ttl h s) {ops : List (τ × Op ε ν)}
    (hops : ∀ timed ∈ ops, timed.2.Fits) :
    CacheReflects ttl (h ++ cacheHistory ops) (run s ops) := by
  induction ops generalizing h s with
  | nil => simpa [cacheHistory, run_nil] using hs
  | cons timed ops ih =>
    have hnext := ih (hs.apply timed.1 (hops timed (.head _))) fun t ht => hops t (.tail _ ht)
    rw [List.append_assoc] at hnext
    exact hnext

end CacheReflects

section Lookups

variable [LinearOrder τ] [Add τ]

private theorem cacheReflects_run (ttl : τ) {ops : List (τ × Op ε ν)}
    (hops : ∀ timed ∈ ops, timed.2.Fits) :
    CacheReflects ttl (cacheHistory ops) (run (empty ttl) ops) :=
  CacheReflects.run (h := []) (s := empty ttl) ⟨rfl, rfl, .empty, .empty⟩ hops

private theorem cachedAll_run (ttl now : τ) {ops : List (τ × Op ε ν)}
    (hpast : ∀ timed ∈ ops, timed.1 ≤ now) (hops : ∀ timed ∈ ops, timed.2.Fits)
    (keys : List (Option CacheKey)) :
    ((run (empty ttl) ops).cachedAll now keys).1 =
      if keys.any (·.any (!fits ·.lineNumber)) then .error .lineTooLarge
      else .ok (keys.map (·.bind (liveVector ttl (cacheHistory ops) now))) := by
  have hs := cacheReflects_run ttl hops
  have hpurged : ∀ p, purged p ∈ cacheHistory ops → p ≤ now := by
    intro p hp
    obtain ⟨timed, htimed, hmem⟩ := List.mem_flatMap.mp hp
    exact Op.time_of_purged hmem ▸ hpast timed htimed
  have hlive : (run (empty ttl) ops).written.cached? now =
      liveVector ttl (cacheHistory ops) now := funext (hs.written.cached? hpurged)
  rw [cachedAll_of_open hs.isOpen, hlive]

private theorem liveVector_skip (ttl now : τ) {op : Op ε ν} (hop : op.writesCache = false) (time : τ)
    (before after : List (τ × Op ε ν)) :
    liveVector ttl (cacheHistory (before ++ (time, op) :: after)) now =
      liveVector ttl (cacheHistory (before ++ after)) now := by
  funext key
  have hskip := lastWrite_skip (Op.not_writes_of_not_writesCache hop time key)
    (cacheHistory before) (cacheHistory after)
  simp only [cacheHistory, List.flatMap_append, List.flatMap_cons] at hskip ⊢
  rw [liveVector, liveVector, ← hskip, List.append_assoc]

/-- After every run in which the clock does not go back, a lookup gives the vector of the last write
of its key while the window of that write lasts, place by place for a list of keys. A purge removes
exactly the keys whose last write is expired and not yet purged, and an operation that does not write
to the cache can be left out of the run without changing a lookup. -/
theorem cache_of_run (ttl now : τ) (ops : List (τ × Op ε ν))
    (hclock : (ops.map Prod.fst ++ [now]).Pairwise (· ≤ ·))
    (hops : ∀ timed ∈ ops, timed.2.Fits) :
    let s := run (empty ttl) ops
    let h := cacheHistory ops
    (∀ key, fits key.lineNumber → (s.cached? now key).1 = .ok (liveVector ttl h now key)) ∧
      (∀ keys : List (Option CacheKey), (∀ key, some key ∈ keys → fits key.lineNumber) →
        (s.cachedAll now keys).1 = .ok (keys.map (·.bind (liveVector ttl h now)))) ∧
      (∃ stale : Finset CacheKey, (∀ key, key ∈ stale ↔ Stale ttl h now key) ∧
        (s.purge now).1 = .ok stale.card) ∧
      ∀ before time op after, ops = before ++ (time, op) :: after → op.writesCache = false →
        ∀ keys, ((run (empty ttl) (before ++ after)).cachedAll now keys).1 =
          (s.cachedAll now keys).1 := by
  intro s h
  have hpast : ∀ timed ∈ ops, timed.1 ≤ now := fun timed htimed =>
    (List.pairwise_append.mp hclock).2.2 timed.1 (List.mem_map_of_mem htimed) now (by simp)
  have hs : CacheReflects ttl h s := cacheReflects_run ttl hops
  have hlookup : ∀ keys : List (Option CacheKey),
      (∀ key, some key ∈ keys → fits key.lineNumber) →
        (s.cachedAll now keys).1 = .ok (keys.map (·.bind (liveVector ttl h now))) := by
    intro keys hkeys
    rw [cachedAll_run ttl now hpast hops, if_neg]
    simp only [List.any_eq_true, not_exists, not_and]
    intro key hmem
    cases key with
    | none => simp
    | some key => simpa using hkeys key hmem
  refine ⟨?_, hlookup, ?_, ?_⟩
  · intro key hfit
    have hone := hlookup [some key] (by simpa using hfit)
    simp only [cached?, hone]
    rfl
  · obtain ⟨stale, hstale, hcount⟩ := hs.written.purge_count now
    refine ⟨stale, hstale, ?_⟩
    rw [Store.purge, transact_of_open hs.isOpen, hcount]
  · rintro before time op after hsplit hop keys
    have hsub : ∀ timed ∈ before ++ after, timed ∈ ops := by
      intro timed htimed
      rw [hsplit]
      rcases List.mem_append.mp htimed with hmem | hmem
      · exact List.mem_append_left _ hmem
      · exact List.mem_append_right _ (.tail _ hmem)
    rw [cachedAll_run ttl now (fun timed ht => hpast timed (hsub timed ht))
        fun timed ht => hops timed (hsub timed ht),
      cachedAll_run ttl now hpast hops, hsplit, liveVector_skip ttl now hop]

/-- An older write of the key that would last longer does not come back, a repeated key keeps its last
vector, and a purge in between changes nothing. -/
theorem cache_of_run_rewritten :
    let key : CacheKey := ⟨"hash", "name", 3⟩
    let other : CacheKey := ⟨"hash", "name", 4⟩
    let ops : List (Int × Op Unit Nat) := [(0, .cacheAll [(key, 1), (other, 2), (key, 3)]),
      (6, .cache key 4), (9, .clear), (11, .purge)]
    (ops.map Prod.fst ++ [15]).Pairwise (· ≤ ·) ∧ (∀ timed ∈ ops, timed.2.Fits) ∧
      ((run (empty 10) ops).cachedAll 15 [some key, none, some other]).1 =
        .ok [some 4, none, none] := by
  intro key other ops
  have hclock : (ops.map Prod.fst ++ [15]).Pairwise (· ≤ ·) := by decide
  have hops : ∀ timed ∈ ops, timed.2.Fits := by
    simp only [ops, List.forall_mem_cons, Op.Fits, key, other, fits]
    simp
  have hlookup := (cache_of_run 10 15 ops hclock hops).2.1 [some key, none, some other]
    (by simp [key, other, fits])
  exact ⟨hclock, hops, hlookup.trans rfl⟩

end Lookups

end CodeTwins.Store
