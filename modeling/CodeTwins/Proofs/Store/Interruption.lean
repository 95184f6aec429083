import CodeTwins.Proofs.Store.Outcome
import Mathlib.Data.List.Induction

/-!
# Interrupted cache writes

A batch of cache writes is refused at the first line number that does not fit. Its entries before
that line are neither saved nor undone then: the next operation that saves anything saves them too,
and only a write that the tables refuse takes them back. What later operations tell is therefore
what they would tell had the batch ended before that line, until such a refusal.
-/
namespace CodeTwins.Store

variable {ε ν τ : Type}

/-- The last vector that a batch has for a key. -/
def lastVector (entries : List (CacheKey × ν)) (key : CacheKey) : Option ν :=
  ((entries.filter (·.1 == key)).getLast?).map (·.2)

private theorem lastVector_concat (entries : List (CacheKey × ν)) (key' key : CacheKey) (v : ν) :
    lastVector (entries ++ [(key', v)]) key =
      if key' = key then some v else lastVector entries key := by
  by_cases h : key' = key <;> simp [lastVector, List.filter_append, h]

namespace Tables

/-- What is cached under a key, whether it is expired or not. -/
def entriesOf (t : Tables ε ν τ) (key : CacheKey) : List (Entry ν τ) :=
  t.cache.filter (·.key == key)

private theorem entriesOf_cacheUntil (t : Tables ε ν τ) (expires : τ) (key' key : CacheKey) (v : ν) :
    (t.cacheUntil expires key' v).entriesOf key =
      if key' = key then [⟨key, v, expires⟩] else t.entriesOf key := by
  by_cases h : key' = key
  · subst h
    simp [entriesOf, cacheUntil, List.filter_append, List.filter_filter]
  · have hkept : ∀ e : Entry ν τ, (e.key == key && e.key != key') = (e.key == key) := by
      intro e
      by_cases he : e.key = key <;> simp [he, Ne.symm h]
    simp [entriesOf, cacheUntil, List.filter_append, List.filter_filter, h, hkept]

theorem entriesOf_cacheAllUntil (t : Tables ε ν τ) (expires : τ) (entries : List (CacheKey × ν))
    (key : CacheKey) :
    (t.cacheAllUntil expires entries).entriesOf key =
      match lastVector entries key with
      | some v => [⟨key, v, expires⟩]
      | none => t.entriesOf key := by
  -- from the end: the last entry decides for its key
  induction entries using List.reverseRecOn with
  | nil => rfl
  | append_singleton entries entry ih =>
    obtain ⟨key', v⟩ := entry
    have hlast : t.cacheAllUntil expires (entries ++ [(key', v)]) =
        (t.cacheAllUntil expires entries).cacheUntil expires key' v := List.foldl_append
    rw [hlast, entriesOf_cacheUntil, lastVector_concat, ih]
    split <;> rfl

end Tables

/-- What an operation tells. -/
inductive Told (ε ν : Type) where
  | done (r : Except Fault Unit)
  | count (r : Except Fault Nat)
  | stats (r : Except Fault Stats)
  | record (r : Except Fault (Option (Record ε ν)))
  | records (r : Except Fault (List (Record ε ν)))
  | vector (r : Except Fault (Option ν))
  | vectors (r : Except Fault (List (Option ν)))

/-- A write that the tables refuse for want of a text. -/
def Op.Refused : Op ε ν → Prop
  | cacheRows rows => ∃ column, rows.findSome? (rowFault ·.1) = some (.missing column)
  | put _ | putAll _ | get _ | all | clear | vanish _ => False
  | cache _ _ | cacheAll _ | cached _ | cachedAll _ | purge | stats => False

/-- The same is written in both stores, whatever is saved. -/
structure Agree (s s' : Store ε ν τ) : Prop where
  written : s.written = s'.written
  setup : s.setup = s'.setup

namespace Agree

variable {s s' : Store ε ν τ}

private theorem fst_transact {β : Type} (h : Agree s s') (f : Tables ε ν τ → Tables ε ν τ × β) :
    (s.transact f).1 = (s'.transact f).1 := by
  unfold transact
  rw [h.written, isOpen_of_setup h.setup]
  split <;> rfl

private theorem fst_putAll (h : Agree s s') (rs : List (Record ε ν)) :
    (s.putAll rs).1 = (s'.putAll rs).1 := by
  unfold putAll
  split
  · rfl
  · exact h.fst_transact _

private theorem fst_cacheAll [Add τ] (h : Agree s s') (now : τ) (entries : List (CacheKey × ν)) :
    (s.cacheAll now entries).1 = (s'.cacheAll now entries).1 := by
  unfold cacheAll
  rw [isOpen_of_setup h.setup, ttl_of_setup h.setup]
  split_ifs
  · rfl
  · rfl
  · exact h.fst_transact _
  · rfl

private theorem fst_cacheRows [Add τ] (h : Agree s s') (now : τ)
    (rows : List (CacheKey (Option String) × ν)) :
    (s.cacheRows now rows).1 = (s'.cacheRows now rows).1 := by
  unfold cacheRows
  split
  · unfold refuse
    rw [isOpen_of_setup h.setup]
    split <;> rfl
  · exact h.fst_cacheAll now _

variable [LT τ] [DecidableRel (α := τ) (· < ·)]

private theorem fst_cachedAll (h : Agree s s') (now : τ) (keys : List (Option CacheKey)) :
    (s.cachedAll now keys).1 = (s'.cachedAll now keys).1 := by
  unfold cachedAll
  rw [isOpen_of_setup h.setup]
  split_ifs
  · rfl
  · rfl
  · rfl
  · exact h.fst_transact _

end Agree

section Fate

/-- A batch was interrupted in the second store. The first is the store before it, the third the
store after the entries before the interruption, and nothing has been saved or undone since. -/
structure Undecided (base cut done : Store ε ν τ) : Prop where
  saved : cut.saved = base.saved
  setup : cut.setup = base.setup
  agree : Agree cut done

/-- What has become of an interrupted batch. -/
inductive Fate (refused : Prop) (base cut done : Store ε ν τ) : Prop where
  | undecided (h : Undecided base cut done)
  | saved (h : cut = done)
  | lost (hrefused : refused) (h : cut = base)

variable {refused refused' : Prop} {base cut done : Store ε ν τ}

namespace Fate

private theorem mono (h : Fate refused base cut done) (himp : refused → refused') :
    Fate refused' base cut done := by
  cases h with
  | undecided h => exact .undecided h
  | saved h => exact .saved h
  | lost hrefused h => exact .lost (himp hrefused) h

private theorem of_undecided (h : Fate refused base cut done) (f : Store ε ν τ → Store ε ν τ)
    (hf : Undecided base cut done → Fate refused (f base) (f cut) (f done)) :
    Fate refused (f base) (f cut) (f done) := by
  cases h with
  | undecided h => exact hf h
  | saved h => exact .saved (congrArg f h)
  | lost hrefused h => exact .lost hrefused (congrArg f h)

end Fate

namespace Undecided

private theorem transact {β : Type} (h : Undecided base cut done)
    (f : Tables ε ν τ → Tables ε ν τ × β) :
    Fate refused (base.transact f).2 (cut.transact f).2 (done.transact f).2 := by
  have hopen : cut.isOpen = done.isOpen := isOpen_of_setup h.agree.setup
  cases hcut : cut.isOpen with
  | true =>
    -- what is written is saved as a whole, that of the interrupted batch with it
    rw [transact_of_open hcut, transact_of_open (hopen.symm.trans hcut)]
    exact .saved (eq_of_parts (by rw [h.agree.written]) (by rw [h.agree.written]) h.agree.setup)
  | false =>
    have hbase : base.isOpen = false := (isOpen_of_setup h.setup).symm.trans hcut
    simpa [Store.transact, hcut, hbase, hopen.symm.trans hcut] using Fate.undecided h

private theorem refuse {β : Type} (h : Undecided base cut done) (column : String) :
    Fate True (base.refuse (β := β) column).2 (cut.refuse (β := β) column).2
      (done.refuse (β := β) column).2 := by
  have hopen : cut.isOpen = base.isOpen := isOpen_of_setup h.setup
  cases hcut : cut.isOpen with
  | true =>
    -- all that is not saved is lost, and so the interrupted batch is
    rw [Store.refuse, Store.refuse, if_pos hcut, if_pos (hopen.symm.trans hcut)]
    exact .lost trivial (eq_of_parts h.saved h.saved h.setup)
  | false =>
    have hdone : done.isOpen = false := (isOpen_of_setup h.agree.setup).symm.trans hcut
    simpa [Store.refuse, hcut, hdone, hopen.symm.trans hcut] using Fate.undecided h

private theorem putAll (h : Undecided base cut done) (rs : List (Record ε ν)) :
    Fate refused (base.putAll rs).2 (cut.putAll rs).2 (done.putAll rs).2 := by
  unfold Store.putAll
  split
  · exact .undecided h
  · exact h.transact _

private theorem cacheAll [Add τ] (h : Undecided base cut done) (now : τ)
    (entries : List (CacheKey × ν)) :
    Fate refused (base.cacheAll now entries).2 (cut.cacheAll now entries).2
      (done.cacheAll now entries).2 := by
  unfold Store.cacheAll
  rw [← isOpen_of_setup h.agree.setup, ← isOpen_of_setup h.setup, ← ttl_of_setup h.agree.setup,
    ← ttl_of_setup h.setup]
  split_ifs
  · exact .undecided h
  · exact .undecided h
  · exact h.transact _
  · -- this batch is interrupted too, and adds to what is not saved
    exact .undecided ⟨h.saved, rfl, by rw [h.agree.written], rfl⟩

private theorem cacheRows [Add τ] (h : Undecided base cut done) (now : τ)
    (rows : List (CacheKey (Option String) × ν)) :
    Fate (Op.cacheRows (ε := ε) rows).Refused (base.cacheRows now rows).2 (cut.cacheRows now rows).2
      (done.cacheRows now rows).2 := by
  unfold Store.cacheRows
  split
  case h_1 column hfault => exact (h.refuse column).mono fun _ => ⟨column, hfault⟩
  case h_2 => exact h.cacheAll now _

variable [LT τ] [DecidableRel (α := τ) (· < ·)]

private theorem cachedAll (h : Undecided base cut done) (now : τ) (keys : List (Option CacheKey)) :
    Fate refused (base.cachedAll now keys).2 (cut.cachedAll now keys).2
      (done.cachedAll now keys).2 := by
  unfold Store.cachedAll
  rw [← isOpen_of_setup h.agree.setup, ← isOpen_of_setup h.setup]
  split_ifs
  · exact .undecided h
  · exact .undecided h
  · exact .undecided h
  · exact h.transact _

private theorem apply [Add τ] (h : Undecided base cut done) (now : τ) (op : Op ε ν) :
    Fate op.Refused (op.apply now base) (op.apply now cut) (op.apply now done) := by
  cases op with
  | put r => exact h.putAll [r]
  | putAll rs => exact h.putAll rs
  | get _ | all | clear | purge | stats => exact h.transact _
  | vanish id =>
    refine .undecided ⟨congrArg (·.vanish id) h.saved, h.setup, ?_, h.agree.setup⟩
    exact congrArg (·.vanish id) h.agree.written
  | cache key v => exact h.cacheAll now [(key, v)]
  | cacheAll entries => exact h.cacheAll now entries
  | cacheRows rows => exact h.cacheRows now rows
  | cached key => exact h.cachedAll now [some key]
  | cachedAll keys => exact h.cachedAll now keys

end Undecided

variable [LT τ] [DecidableRel (α := τ) (· < ·)] [Add τ]

private theorem Fate.run (h : Fate refused base cut done) (ops : List (τ × Op ε ν)) :
    Fate (refused ∨ ∃ timed ∈ ops, timed.2.Refused) (Store.run base ops) (Store.run cut ops)
      (Store.run done ops) := by
  -- decided once, a fate stays: from then on two of the stores are one
  induction ops generalizing refused base cut done with
  | nil => exact h.mono .inl
  | cons timed ops ih =>
    have hstep : Fate (refused ∨ timed.2.Refused) (timed.2.apply timed.1 base)
        (timed.2.apply timed.1 cut) (timed.2.apply timed.1 done) :=
      (h.mono .inl).of_undecided (timed.2.apply timed.1) fun h =>
        (h.apply timed.1 timed.2).mono .inr
    refine (ih hstep).mono ?_
    rintro ((hrefused | hrefused) | ⟨later, hlater, hrefused⟩)
    · exact .inl hrefused
    · exact .inr ⟨timed, .head _, hrefused⟩
    · exact .inr ⟨later, .tail _ hlater, hrefused⟩

/-- What an operation tells at a moment. -/
def Op.tell (now : τ) (s : Store ε ν τ) : Op ε ν → Told ε ν
  | put r => .done (s.put r).1
  | putAll rs => .done (s.putAll rs).1
  | get id => .record (s.get? id).1
  | all => .records s.all.1
  | clear => .count s.clear.1
  | vanish _ => .done (.ok ())
  | cache key vector => .done (s.cache now key vector).1
  | cacheAll entries => .done (s.cacheAll now entries).1
  | cacheRows rows => .done (s.cacheRows now rows).1
  | cached key => .vector (s.cached? now key).1
  | cachedAll keys => .vectors (s.cachedAll now keys).1
  | purge => .count (s.purge now).1
  | stats => .stats (s.stats now).1

private theorem Agree.tell {s s' : Store ε ν τ} (h : Agree s s') (now : τ) (op : Op ε ν) :
    op.tell now s = op.tell now s' := by
  cases op with
  | put r => exact congrArg Told.done (h.fst_putAll [r])
  | putAll rs => exact congrArg Told.done (h.fst_putAll rs)
  | get id => exact congrArg Told.record (h.fst_transact _)
  | all => exact congrArg Told.records (h.fst_transact _)
  | clear => exact congrArg Told.count (h.fst_transact _)
  | vanish _ => rfl
  | cache key v => exact congrArg Told.done (h.fst_cacheAll now [(key, v)])
  | cacheAll entries => exact congrArg Told.done (h.fst_cacheAll now entries)
  | cacheRows rows => exact congrArg Told.done (h.fst_cacheRows now rows)
  | cached key =>
    exact congrArg (fun found => Told.vector (found.map fun l => l.head?.join))
      (h.fst_cachedAll now [some key])
  | cachedAll keys => exact congrArg Told.vectors (h.fst_cachedAll now keys)
  | purge => exact congrArg Told.count (h.fst_transact _)
  | stats => exact congrArg Told.stats (h.fst_transact _)

end Fate

private theorem mem_of_lastVector {entries : List (CacheKey × ν)} {key : CacheKey} {v : ν}
    (h : lastVector entries key = some v) : ∃ e ∈ entries, e.1 = key := by
  obtain ⟨e, hlast, -⟩ := Option.map_eq_some_iff.mp h
  have hmem := List.mem_filter.mp (List.mem_of_getLast? hlast)
  exact ⟨e, hmem.1, by simpa using hmem.2⟩

section Batches

variable [LT τ] [DecidableRel (α := τ) (· < ·)]

private theorem Tables.cached?_of_entriesOf {t : Tables ε ν τ} {key : CacheKey} {v : ν}
    {expires time : τ} (h : t.entriesOf key = [⟨key, v, expires⟩]) (htime : time < expires) :
    t.cached? time key = some v := by
  have hfind : t.cache.find? (fun e => e.key == key && decide (time < e.expires)) =
      (t.entriesOf key).find? fun e => decide (time < e.expires) := by
    simp only [entriesOf, List.find?_filter, Bool.decide_and, Bool.decide_eq_true]
  rw [cached?, hfind, h]
  simp [htime]

variable [Add τ]

/-- A batch is cached as a whole, with the last vector of each key, or it is refused. A closed store
is left as it is then. Otherwise a line number does not fit: nothing happens if it is that of the
first entry, and else the entries before it are found. What a later operation tells is what it would
tell had the batch ended there, or, once a refused write has come, had there been no batch. -/
theorem cacheAll_whole_or_cut (s : Store ε ν τ) (now : τ) (entries : List (CacheKey × ν)) :
    match s.cacheAll now entries with
    | (.ok (), s') =>
      (entries ≠ [] → s'.saved = s'.written) ∧
        ∀ key, s'.written.entriesOf key =
          match lastVector entries key with
          | some v => [⟨key, v, now + s.ttl⟩]
          | none => s.written.entriesOf key
    | (.error f, s') =>
      f = .closed ∧ s' = s ∨
      f = .lineTooLarge ∧ ∃ before entry after,
        entries = before ++ entry :: after ∧ (∀ e ∈ before, fits e.1.lineNumber = true) ∧
        fits entry.1.lineNumber = false ∧ (before = [] → s' = s) ∧
        (∀ key v time, lastVector before key = some v → time < now + s.ttl →
          (s'.cached? time key).1 = .ok (some v)) ∧
        ∀ later time (op : Op ε ν),
          op.tell time (run s' later) = op.tell time (run (s.cacheAll now before).2 later) ∨
            (∃ timed ∈ later, timed.2.Refused) ∧
              op.tell time (run s' later) = op.tell time (run s later) := by
  rcases hcall : s.cacheAll now entries with ⟨result, s'⟩
  cases result with
  | ok =>
    obtain ⟨hwritten, hsaved⟩ := cacheAll_ok hcall
    refine ⟨hsaved, fun key => ?_⟩
    rw [hwritten, Tables.entriesOf_cacheAllUntil]
  | error f =>
    rcases cacheAll_error hcall with hclosed |
      ⟨rfl, hopen, before, entry, after, rfl, hbefore, hentry, rfl⟩
    · exact .inl hclosed
    right
    refine ⟨rfl, before, entry, after, rfl, hbefore, hentry, ?_, ?_, ?_⟩
    · rintro rfl
      rfl
    · intro key v time hlast htime
      have hfit : fits key.lineNumber = true := by
        obtain ⟨e, he, rfl⟩ := mem_of_lastVector hlast
        exact hbefore e he
      have hfound := Tables.entriesOf_cacheAllUntil s.written (now + s.ttl) before key
      rw [hlast] at hfound
      refine (cached?_of_open ?_ hfit time).trans ?_
      · exact hopen
      · exact congrArg Except.ok (Tables.cached?_of_entriesOf hfound htime)
    · intro later time op
      have hcut : Fate False s { s with written := s.written.cacheAllUntil (now + s.ttl) before }
          (s.cacheAll now before).2 := by
        obtain ⟨done, hdone, hwritten⟩ := cacheAll_of_fits now fun e he => ⟨hopen, hbefore e he⟩
        have hsetup := setup_cacheAll s now before
        rw [hdone] at hsetup ⊢
        exact .undecided ⟨rfl, rfl, hwritten.symm, hsetup.symm⟩
      cases hcut.run later with
      | undecided h => exact .inl (h.agree.tell time op)
      | saved h => exact .inl (congrArg (op.tell time) h)
      | lost hrefused h => exact .inr ⟨hrefused.resolve_left id, congrArg (op.tell time) h⟩

/-- The vector before a line that does not fit is found, although its batch was refused. -/
theorem cacheAll_cut_found :
    let key : CacheKey := ⟨"hash", "name", 1⟩
    let large : CacheKey := ⟨"hash", "name", 0x8000000000000000⟩
    let s : Store Unit Nat Int := empty 10
    let (result, s') := s.cacheAll 0 [(key, 1), (large, 2)]
    result = .error .lineTooLarge ∧ (s.cached? 5 key).1 = .ok none ∧
      (s'.cached? 5 key).1 = .ok (some 1) ∧ (s'.stats 5).1 = .ok ⟨0, 1, 0⟩ ∧
      (s'.purge 10).1 = .ok 1 :=
  ⟨rfl, rfl, rfl, rfl, rfl⟩

end Batches

end CodeTwins.Store
