import CodeTwins.Proofs.Store.Run
import Mathlib.Data.List.DropRight

/-!
# The records of a run

What the records of a store are after a run can be read off the run: an id stands where it was first
stored since the last wipe, and its row is that of the latest store of the id, unless it has been
lost since.
-/
namespace CodeTwins.Store

variable {ε ν τ : Type}

/-- What befalls the records. -/
inductive RecordEvent (ε ν : Type) where
  | stored (r : Record ε ν)
  | lost (id : String)
  | wiped

namespace RecordEvent

/-- Whether the row of an id depends on the event. -/
def concerns (id : String) : RecordEvent ε ν → Bool
  | stored r => r.id == id
  | lost other => other == id
  | wiped => true

/-- The row that the event leaves to the ids it concerns. -/
def row : RecordEvent ε ν → Option (Record ε ν)
  | stored r => some r
  | lost _ => none
  | wiped => none

def storedId : RecordEvent ε ν → Option String
  | stored r => some r.id
  | lost _ => none
  | wiped => none

def isWipe : RecordEvent ε ν → Bool
  | stored _ => false
  | lost _ => false
  | wiped => true

end RecordEvent

open RecordEvent

/-- The events since the last wipe. -/
def sinceWipe (h : List (RecordEvent ε ν)) : List (RecordEvent ε ν) :=
  h.rtakeWhile fun e => !e.isWipe

/-- The ids stored since the last wipe, each once, in the order in which they were first stored. -/
def firstStored (h : List (RecordEvent ε ν)) : List String :=
  ((sinceWipe h).filterMap storedId).eraseDups

/-- The row of an id: that which the last event that concerns the id has left. -/
def lastRow (h : List (RecordEvent ε ν)) (id : String) : Option (Record ε ν) :=
  (h.filter (·.concerns id)).getLast?.bind row

private theorem firstStored_stored (h : List (RecordEvent ε ν)) (r : Record ε ν) :
    firstStored (h ++ [stored r]) =
      if r.id ∈ firstStored h then firstStored h else firstStored h ++ [r.id] := by
  have hsince : sinceWipe (h ++ [stored r]) = sinceWipe h ++ [stored r] :=
    List.rtakeWhile_concat_pos _ _ _ rfl
  have hids : (sinceWipe h ++ [stored r]).filterMap storedId =
      (sinceWipe h).filterMap storedId ++ [r.id] := by
    rw [List.filterMap_append]
    rfl
  simp only [firstStored, hsince, hids, List.eraseDups_append, List.mem_eraseDups]
  generalize (sinceWipe h).filterMap storedId = ids
  by_cases hmem : r.id ∈ ids <;> simp [List.removeAll, hmem, List.eraseDups_cons]

private theorem firstStored_lost (h : List (RecordEvent ε ν)) (id : String) :
    firstStored (h ++ [lost id]) = firstStored h := by
  have hsince : sinceWipe (h ++ [lost id]) = sinceWipe h ++ [lost id] :=
    List.rtakeWhile_concat_pos _ _ _ rfl
  have hids : [(lost id : RecordEvent ε ν)].filterMap storedId = [] := rfl
  rw [firstStored, firstStored, hsince, List.filterMap_append, hids, List.append_nil]

private theorem firstStored_wiped (h : List (RecordEvent ε ν)) : firstStored (h ++ [wiped]) = [] := by
  have hsince : sinceWipe (h ++ [wiped]) = [] :=
    List.rtakeWhile_concat_neg _ _ _ (by simp [isWipe])
  simp [firstStored, hsince]

private theorem lastRow_concat (h : List (RecordEvent ε ν)) (e : RecordEvent ε ν) (id : String) :
    lastRow (h ++ [e]) id = if e.concerns id then e.row else lastRow h id := by
  cases hc : e.concerns id <;> simp [lastRow, List.filter_append, hc]

private theorem lastRow_id {h : List (RecordEvent ε ν)} {id : String} {r : Record ε ν}
    (hr : lastRow h id = some r) : r.id = id := by
  induction h using List.reverseRecOn with
  | nil => simp [lastRow] at hr
  | append_singleton h e ih =>
    rw [lastRow_concat] at hr
    cases e with
    | stored r' =>
      by_cases hid : r'.id = id
      · simp_all [concerns, row]
      · exact ih (by simpa [concerns, hid] using hr)
    | lost other =>
      by_cases hid : other = id
      · simp [concerns, row, hid] at hr
      · exact ih (by simpa [concerns, hid] using hr)
    | wiped => simp [concerns, row] at hr

private theorem mem_firstStored_of_lastRow {h : List (RecordEvent ε ν)} {id : String} {r : Record ε ν}
    (hr : lastRow h id = some r) : id ∈ firstStored h := by
  induction h using List.reverseRecOn with
  | nil => simp [lastRow] at hr
  | append_singleton h e ih =>
    rw [lastRow_concat] at hr
    cases e with
    | stored r' =>
      rw [firstStored_stored]
      by_cases hid : r'.id = id
      · split_ifs <;> simp_all
      · have hmem : id ∈ firstStored h := ih (by simpa [concerns, hid] using hr)
        split_ifs <;> simp [hmem]
    | lost other =>
      rw [firstStored_lost]
      by_cases hid : other = id
      · simp [concerns, row, hid] at hr
      · exact ih (by simpa [concerns, hid] using hr)
    | wiped => simp [concerns, row] at hr

private theorem firstStored_nodup (h : List (RecordEvent ε ν)) : (firstStored h).Nodup := by
  induction h using List.reverseRecOn with
  | nil => simp [firstStored, sinceWipe]
  | append_singleton h e ih =>
    cases e with
    | stored r =>
      rw [firstStored_stored]
      split_ifs with hmem
      · exact ih
      · refine List.nodup_append.mpr ⟨ih, by simp, ?_⟩
        simpa using fun id hid => ne_of_mem_of_not_mem hid hmem
    | lost id => rwa [firstStored_lost]
    | wiped => simp [firstStored_wiped]

private theorem find?_rows {row : String → Option (Record ε ν)}
    (hrow : ∀ id r, row id = some r → r.id = id) (ids : List String) (id : String) :
    (ids.filterMap row).find? (·.id == id) = if id ∈ ids then row id else none := by
  induction ids with
  | nil => rfl
  | cons first ids ih =>
    cases hfirst : row first with
    | none =>
      rw [List.filterMap_cons_none hfirst, ih]
      by_cases hid : id = first
      · simp [hid, hfirst]
      · simp [hid]
    | some r =>
      have hr : r.id = first := hrow first r hfirst
      rw [List.filterMap_cons_some hfirst, List.find?_cons, ih]
      by_cases hid : first = id
      · simp [hr, ← hid, hfirst]
      · simp [hr, Ne.symm hid, beq_eq_false_iff_ne.mpr hid]

private theorem map_id_rows {row : String → Option (Record ε ν)}
    (hrow : ∀ id r, row id = some r → r.id = id) (ids : List String) :
    (ids.filterMap row).map (·.id) = ids.filter fun id => (row id).isSome := by
  induction ids with
  | nil => rfl
  | cons first ids ih =>
    cases hfirst : row first with
    | none => simp [hfirst, ih]
    | some r => simp [hfirst, ih, hrow first r hfirst]

/-- Tables whose records are what the events have left. -/
structure Reflects (h : List (RecordEvent ε ν)) (t : Tables ε ν τ) : Prop where
  ids : t.ids = firstStored h
  row : ∀ id, t.get? id = lastRow h id

namespace Reflects

variable {h : List (RecordEvent ε ν)} {t t' : Tables ε ν τ}

private theorem empty : Reflects [] ({} : Tables ε ν τ) :=
  ⟨rfl, fun _ => rfl⟩

private theorem of_records (ht : Reflects h t) (hr : t'.records = t.records) (hi : t'.ids = t.ids) :
    Reflects h t' where
  ids := hi.trans ht.ids
  row id := by rw [← ht.row id, Tables.get?, Tables.get?, hr]

private theorem records_subset (ht : Reflects h t) : ∀ r ∈ t.records, r.id ∈ t.ids := by
  intro r hr
  obtain ⟨r', hr'⟩ := Tables.exists_get?_of_mem hr
  rw [ht.row] at hr'
  rw [ht.ids]
  exact mem_firstStored_of_lastRow hr'

private theorem put (ht : Reflects h t) (r : Record ε ν) : Reflects (h ++ [stored r]) (t.put r) where
  ids := by rw [Tables.ids_put, firstStored_stored, ht.ids]
  row id := by
    rw [Tables.get?_put, lastRow_concat, ht.row]
    simp [concerns, RecordEvent.row]

private theorem putAll (ht : Reflects h t) (rs : List (Record ε ν)) :
    Reflects (h ++ rs.map stored) (t.putAll rs) := by
  induction rs generalizing h t with
  | nil => simpa [Tables.putAll_nil] using ht
  | cons r rs ih => simpa [Tables.putAll_cons] using ih (ht.put r)

private theorem vanish (ht : Reflects h t) (id : String) :
    Reflects (h ++ [lost id]) (t.vanish id) where
  ids := by rw [firstStored_lost]; exact ht.ids
  row id' := by
    rw [Tables.get?_vanish, lastRow_concat, ht.row]
    simp [concerns, RecordEvent.row]

private theorem clear (ht : Reflects h t) : Reflects (h ++ [wiped]) t.clear.1 where
  ids := by rw [firstStored_wiped]; rfl
  row id := by
    have hnone : t.clear.1.get? id = none := by
      simp [Tables.get?, Tables.records_clear ht.records_subset]
    rw [hnone, lastRow_concat]
    rfl

private theorem all (ht : Reflects h t) : t.all = (firstStored h).filterMap (lastRow h) := by
  rw [Tables.all, ht.ids]
  congr 1
  funext id
  exact ht.row id

end Reflects

/-- What an operation does to the records. -/
def Op.recordEvents : Op ε ν → List (RecordEvent ε ν)
  | put r => [stored r]
  | putAll rs => rs.map stored
  | clear => [wiped]
  | vanish id => [lost id]
  | get _ | all | stats => []
  | cache _ _ | cacheAll _ | cacheRows _ | cached _ | cachedAll _ | purge => []

/-- What befalls the records in a run. -/
def recordHistory (ops : List (τ × Op ε ν)) : List (RecordEvent ε ν) :=
  ops.flatMap (·.2.recordEvents)

/-- An open store whose records, saved or not, are what the events have left. -/
structure RecordsReflect (h : List (RecordEvent ε ν)) (s : Store ε ν τ) : Prop where
  isOpen : s.isOpen = true
  saved : Reflects h s.saved
  written : Reflects h s.written

namespace RecordsReflect

variable {h h' : List (RecordEvent ε ν)} {s s' : Store ε ν τ}

private theorem of_from (hs : RecordsReflect h s) (hsetup : s'.setup = s.setup)
    (hfrom : RecordsFrom s s') : RecordsReflect h s' := by
  have hall : ∀ t ∈ [s'.saved, s'.written], Reflects h t := by
    intro t' ht'
    obtain ⟨t, ht, hr, hi⟩ := hfrom t' ht'
    rcases List.mem_pair.mp ht with rfl | rfl
    · exact hs.saved.of_records hr hi
    · exact hs.written.of_records hr hi
  exact ⟨(isOpen_of_setup hsetup).trans hs.isOpen, hall _ (by simp), hall _ (by simp)⟩

private theorem transact {β : Type} (hs : RecordsReflect h s) {f : Tables ε ν τ → Tables ε ν τ × β}
    (hf : Reflects h' (f s.written).1) : RecordsReflect h' (s.transact f).2 := by
  rw [transact_of_open hs.isOpen]
  exact ⟨hs.isOpen, hf, hf⟩

private theorem putAll (hs : RecordsReflect h s) (rs : List (Record ε ν)) :
    RecordsReflect (h ++ rs.map stored) (s.putAll rs).2 := by
  unfold Store.putAll
  split
  · next hnil =>
    rw [List.isEmpty_iff.mp hnil]
    simpa using hs
  · exact hs.transact (hs.written.putAll rs)

variable [LT τ] [DecidableRel (α := τ) (· < ·)] [Add τ]

private theorem apply (hs : RecordsReflect h s) (now : τ) (op : Op ε ν) :
    RecordsReflect (h ++ op.recordEvents) (op.apply now s) := by
  cases op with
  | put r => exact hs.putAll [r]
  | putAll rs => exact hs.putAll rs
  | clear => exact hs.transact hs.written.clear
  | vanish id => exact ⟨hs.isOpen, hs.saved.vanish id, hs.written.vanish id⟩
  | get _ | all | stats =>
    rw [Op.recordEvents, List.append_nil]
    exact hs.transact hs.written
  | cache _ _ | cacheAll _ =>
    rw [Op.recordEvents, List.append_nil]
    exact hs.of_from (setup_cacheAll s now _) (recordsFrom_cacheAll s now _)
  | cacheRows rows =>
    rw [Op.recordEvents, List.append_nil]
    exact hs.of_from (setup_cacheRows s now _) (recordsFrom_cacheRows s now _)
  | cached key =>
    rw [Op.recordEvents, List.append_nil, Op.apply, snd_cached?]
    exact hs.of_from (setup_cachedAll s now _) (recordsFrom_cachedAll s now _)
  | cachedAll keys =>
    rw [Op.recordEvents, List.append_nil]
    exact hs.of_from (setup_cachedAll s now _) (recordsFrom_cachedAll s now _)
  | purge =>
    rw [Op.recordEvents, List.append_nil]
    exact hs.of_from (setup_transact s _) (recordsFrom_transact s fun t => ⟨rfl, rfl⟩)

private theorem run (hs : RecordsReflect h s) (ops : List (τ × Op ε ν)) :
    RecordsReflect (h ++ recordHistory ops) (run s ops) := by
  induction ops generalizing h s with
  | nil => simpa [recordHistory, run_nil] using hs
  | cons timed ops ih =>
    have hnext := ih (hs.apply timed.1 timed.2)
    rw [List.append_assoc] at hnext
    exact hnext

end RecordsReflect

variable [LT τ] [DecidableRel (α := τ) (· < ·)] [Add τ]

private theorem recordsReflect_run (ttl : τ) (ops : List (τ × Op ε ν)) :
    RecordsReflect (recordHistory ops) (run (empty ttl) ops) :=
  RecordsReflect.run (h := []) ⟨rfl, .empty, .empty⟩ ops

/-- After a run, no two records have one id. -/
theorem nodup_ids_run (ttl : τ) (ops : List (τ × Op ε ν)) :
    ((run (empty ttl) ops).written.all.map (·.id)).Nodup := by
  have hs := recordsReflect_run (ε := ε) (ν := ν) ttl ops
  rw [hs.written.all, map_id_rows fun _ _ => lastRow_id]
  exact (firstStored_nodup _).filter _

/-- After every run, the records are the rows of the ids in the order in which these were first
stored since the last wipe. A wipe counts those ids and leaves neither record nor id. -/
theorem records_of_run (ttl : τ) (ops : List (τ × Op ε ν)) :
    let s := run (empty ttl) ops
    let h := recordHistory ops
    let rows := (firstStored h).filterMap (lastRow h)
    s.all.1 = .ok rows ∧
      rows.map (·.id) = (firstStored h).filter (fun id => (lastRow h id).isSome) ∧
      (firstStored h).Nodup ∧
      (∀ id, (s.get? id).1 = .ok (lastRow h id) ∧ rows.find? (·.id == id) = lastRow h id) ∧
      s.clear.1 = .ok (firstStored h).length ∧
      (∀ t ∈ [s.clear.2.saved, s.clear.2.written], t.records = [] ∧ t.ids = []) ∧
      ∀ t ∈ [s.saved, s.written], ∀ r ∈ t.records, r.id ∈ t.ids := by
  intro s h rows
  have hs : RecordsReflect h s := recordsReflect_run ttl ops
  have hclear := transact_of_open hs.isOpen (Tables.clear (ε := ε) (ν := ν) (τ := τ))
  refine ⟨?_, map_id_rows (fun _ _ => lastRow_id) _, firstStored_nodup h, ?_, ?_, ?_, ?_⟩
  · rw [Store.all, transact_of_open hs.isOpen, hs.written.all]
  · intro id
    constructor
    · rw [Store.get?, transact_of_open hs.isOpen, hs.written.row]
    · rw [find?_rows (fun _ _ => lastRow_id)]
      cases hrow : lastRow h id with
      | none => simp
      | some r => simp [mem_firstStored_of_lastRow hrow]
  · rw [Store.clear, hclear, Tables.clear, hs.written.ids]
  · have hrecords := Tables.records_clear hs.written.records_subset
    rw [Store.clear, hclear]
    intro t ht
    have htables : t = s.written.clear.1 := by simpa using ht
    exact htables ▸ ⟨hrecords, rfl⟩
  · intro t ht
    rcases List.mem_pair.mp ht with rfl | rfl
    · exact hs.saved.records_subset
    · exact hs.written.records_subset

end CodeTwins.Store
