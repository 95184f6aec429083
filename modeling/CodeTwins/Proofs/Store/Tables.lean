import CodeTwins.Store.Tables
import Mathlib.Data.List.Basic

/-!
# Laws of the tables

What each operation does to the row of an id, to the order of the ids and to the entries of the
cache. The records and the cache are two sides that no operation touches both of.
-/
namespace CodeTwins.Store.Tables

variable {ε ν τ : Type}

theorem exists_get?_of_mem {t : Tables ε ν τ} {r : Record ε ν} (h : r ∈ t.records) :
    ∃ r', t.get? r.id = some r' := by
  have hsome : (t.get? r.id).isSome := by
    simp only [get?, List.find?_isSome]
    exact ⟨r, h, by simp⟩
  exact Option.isSome_iff_exists.mp hsome

theorem get?_put (t : Tables ε ν τ) (r : Record ε ν) (id : String) :
    (t.put r).get? id = if r.id = id then some r else t.get? id := by
  by_cases h : r.id = id
  · subst h
    have hnone : (t.records.filter (·.id != r.id)).find? (·.id == r.id) = none := by
      simp [List.find?_eq_none]
    simp [get?, put, List.find?_append, hnone]
  · have hfind : (t.records.filter (·.id != r.id)).find? (·.id == id) =
        t.records.find? (·.id == id) := by
      rw [List.find?_filter]
      congr 1
      funext r'
      by_cases hr : r'.id = id
      · simp [hr, Ne.symm h]
      · simp [hr]
    simp [get?, put, List.find?_append, hfind, h]

theorem get?_vanish (t : Tables ε ν τ) (lost id : String) :
    (t.vanish lost).get? id = if lost = id then none else t.get? id := by
  simp only [get?, vanish, List.find?_filter]
  by_cases h : lost = id
  · subst h
    simp [List.find?_eq_none]
  · rw [if_neg h]
    congr 1
    funext r
    by_cases hr : r.id = id
    · simp [hr, Ne.symm h]
    · simp [hr]

theorem records_clear {t : Tables ε ν τ} (h : ∀ r ∈ t.records, r.id ∈ t.ids) :
    t.clear.1.records = [] := by
  simpa [clear, List.filter_eq_nil_iff] using h

theorem ids_put (t : Tables ε ν τ) (r : Record ε ν) :
    (t.put r).ids = if r.id ∈ t.ids then t.ids else t.ids ++ [r.id] := by
  simp [put]

@[simp] theorem cache_clear (t : Tables ε ν τ) : t.clear.1.cache = t.cache := rfl

@[simp] theorem cache_putAll (t : Tables ε ν τ) (rs : List (Record ε ν)) :
    (t.putAll rs).cache = t.cache := by
  induction rs generalizing t with
  | nil => rfl
  | cons r rs ih => exact ih (t.put r)

theorem putAll_nil (t : Tables ε ν τ) : t.putAll [] = t := rfl

theorem putAll_cons (t : Tables ε ν τ) (r : Record ε ν) (rs : List (Record ε ν)) :
    t.putAll (r :: rs) = (t.put r).putAll rs := rfl

theorem isSome_get?_putAll (t : Tables ε ν τ) (rs : List (Record ε ν)) (id : String) :
    ((t.putAll rs).get? id).isSome ↔ (t.get? id).isSome ∨ id ∈ rs.map (·.id) := by
  induction rs generalizing t with
  | nil => simp [putAll_nil]
  | cons r rs ih =>
    rw [putAll_cons, ih, get?_put]
    by_cases hid : r.id = id
    · simp [hid]
    · simp [hid, Ne.symm hid]

theorem mem_records_putAll {t : Tables ε ν τ} {rs : List (Record ε ν)} {r : Record ε ν}
    (h : r ∈ (t.putAll rs).records) : r ∈ t.records ∨ r ∈ rs := by
  induction rs generalizing t with
  | nil => exact .inl h
  | cons r' rs ih =>
    rcases ih h with hput | hrs
    · rcases List.mem_append.mp hput with hold | hnew
      · exact .inl (List.mem_filter.mp hold).1
      · exact .inr (List.mem_cons.mpr (.inl (List.mem_singleton.mp hnew)))
    · exact .inr (.tail _ hrs)

theorem mem_records_of_mem_all {t : Tables ε ν τ} {r : Record ε ν} (h : r ∈ t.all) :
    r ∈ t.records := by
  obtain ⟨id, -, hget⟩ := List.mem_filterMap.mp h
  exact List.mem_of_find?_eq_some hget

theorem get?_of_mem_all {t : Tables ε ν τ} {r : Record ε ν} (h : r ∈ t.all) :
    t.get? r.id = some r := by
  obtain ⟨id, -, hget⟩ := List.mem_filterMap.mp h
  have hid : r.id = id := by simpa using List.find?_some hget
  rw [hid]
  exact hget

theorem mem_all_put (t : Tables ε ν τ) (r : Record ε ν) : r ∈ (t.put r).all := by
  refine List.mem_filterMap.mpr ⟨r.id, ?_, by rw [get?_put, if_pos rfl]⟩
  rw [ids_put]
  split
  · assumption
  · simp

private theorem all_put {t : Tables ε ν τ} {r : Record ε ν} (h : r.id ∉ t.ids) :
    (t.put r).all = t.all ++ [r] := by
  have hbefore : t.ids.filterMap (t.put r).get? = t.ids.filterMap t.get? := by
    refine List.filterMap_congr fun id hid => ?_
    have hne : r.id ≠ id := fun heq => h (by rwa [heq])
    rw [get?_put, if_neg hne]
  have hnew : (t.put r).get? r.id = some r := by rw [get?_put, if_pos rfl]
  rw [all, ids_put, if_neg h, List.filterMap_append, hbefore, all, List.filterMap_cons_some hnew,
    List.filterMap_nil]

/-- Records with new ids come after all others, in their order. -/
theorem all_putAll {t : Tables ε ν τ} {rs : List (Record ε ν)} (hnodup : (rs.map (·.id)).Nodup)
    (hnew : ∀ r ∈ rs, r.id ∉ t.ids) : (t.putAll rs).all = t.all ++ rs := by
  induction rs generalizing t with
  | nil => simp [putAll_nil]
  | cons r rs ih =>
    have hr : r.id ∉ t.ids := hnew r List.mem_cons_self
    obtain ⟨hrest, hnodup⟩ := List.nodup_cons.mp hnodup
    have hids : ∀ r' ∈ rs, r'.id ∉ (t.put r).ids := by
      intro r' hr'
      have hne : r'.id ≠ r.id := fun heq => hrest (List.mem_map.mpr ⟨r', hr', heq⟩)
      rw [ids_put, if_neg hr]
      simp [hnew r' (.tail _ hr'), hne]
    rw [putAll_cons, ih hnodup hids, all_put hr, List.append_assoc, List.singleton_append]

theorem mem_cache_cacheAllUntil {t : Tables ε ν τ} {expires : τ} {entries : List (CacheKey × ν)}
    {entry : Entry ν τ} (h : entry ∈ (t.cacheAllUntil expires entries).cache) :
    entry ∈ t.cache ∨ (entry.key, entry.vector) ∈ entries ∧ entry.expires = expires := by
  induction entries generalizing t with
  | nil => exact .inl h
  | cons new entries ih =>
    rcases ih h with hcache | ⟨hentries, hexpires⟩
    · rcases List.mem_append.mp hcache with hold | hnew
      · exact .inl (List.mem_filter.mp hold).1
      · rw [List.mem_singleton.mp hnew]
        exact .inr ⟨.head _, rfl⟩
    · exact .inr ⟨.tail _ hentries, hexpires⟩

@[simp] theorem records_cacheAllUntil (t : Tables ε ν τ) (expires : τ)
    (entries : List (CacheKey × ν)) : (t.cacheAllUntil expires entries).records = t.records := by
  induction entries generalizing t with
  | nil => rfl
  | cons entry entries ih => exact ih (t.cacheUntil expires entry.1 entry.2)

@[simp] theorem ids_cacheAllUntil (t : Tables ε ν τ) (expires : τ)
    (entries : List (CacheKey × ν)) : (t.cacheAllUntil expires entries).ids = t.ids := by
  induction entries generalizing t with
  | nil => rfl
  | cons entry entries ih => exact ih (t.cacheUntil expires entry.1 entry.2)

@[simp] theorem get?_cacheAllUntil (t : Tables ε ν τ) (expires : τ)
    (entries : List (CacheKey × ν)) (id : String) :
    (t.cacheAllUntil expires entries).get? id = t.get? id := by
  simp [get?]

@[simp] theorem all_cacheAllUntil (t : Tables ε ν τ) (expires : τ)
    (entries : List (CacheKey × ν)) : (t.cacheAllUntil expires entries).all = t.all := by
  have hget : (t.cacheAllUntil expires entries).get? = t.get? :=
    funext (get?_cacheAllUntil t expires entries)
  rw [all, all, hget, ids_cacheAllUntil]

end CodeTwins.Store.Tables
