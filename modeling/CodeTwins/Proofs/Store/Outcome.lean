import CodeTwins.Proofs.Store.Run
import Mathlib.Data.List.TakeWhile

/-!
# What operations of the store come to

A lookup or a write is refused for a reason that can be read off the store and the operation, and
then leaves everything as it is. Otherwise it does what the tables do.
-/
namespace CodeTwins.Store

variable {ε ν τ : Type} {s s' : Store ε ν τ}

theorem transact_ok {β : Type} {f : Tables ε ν τ → Tables ε ν τ × β} {b : β}
    (h : s.transact f = (.ok b, s')) : s'.written = (f s.written).1 ∧ b = (f s.written).2 := by
  unfold transact at h
  split at h
  · cases h
    exact ⟨rfl, rfl⟩
  · cases h

theorem transact_error {β : Type} {f : Tables ε ν τ → Tables ε ν τ × β} {fault : Fault}
    (h : s.transact f = (.error fault, s')) : s' = s ∧ fault = .closed ∧ s.isOpen = false := by
  unfold transact at h
  split at h
  · cases h
  case isFalse hopen =>
    cases h
    exact ⟨rfl, rfl, by simpa using hopen⟩

theorem putAll_ok {rs : List (Record ε ν)} (h : s.putAll rs = (.ok (), s')) :
    s'.written = s.written.putAll rs := by
  unfold putAll at h
  split at h
  case isTrue hempty =>
    obtain rfl : s = s' := congrArg Prod.snd h
    rw [List.isEmpty_iff.mp hempty, Tables.putAll_nil]
  case isFalse => exact (transact_ok h).1

theorem putAll_error {rs : List (Record ε ν)} {f : Fault} (h : s.putAll rs = (.error f, s')) :
    s' = s ∧ f = .closed ∧ s.isOpen = false := by
  unfold putAll at h
  split at h
  · cases h
  · exact transact_error h

section Lookup

variable [LT τ] [DecidableRel (α := τ) (· < ·)] {now : τ} {keys : List (Option CacheKey)}

/-- A lookup that succeeds finds what the tables hold. If it has to look anything up, the store is
open and the keys fit. -/
theorem cachedAll_ok {found : List (Option ν)} (h : s.cachedAll now keys = (.ok found, s')) :
    found = keys.map (·.bind (s.written.cached? now)) ∧ s'.written = s.written ∧
      ∀ key, some key ∈ keys → s.isOpen = true ∧ fits key.lineNumber = true := by
  unfold cachedAll at h
  split_ifs at h with hnone hclosed hlarge
  · cases h
    have hkeys : ∀ key ∈ keys, key = none := by simpa using hnone
    refine ⟨List.map_congr_left fun key hkey => ?_, rfl, fun key hkey => ?_⟩
    · rw [hkeys key hkey, Option.bind_none]
    · cases hkeys (some key) hkey
  · cases h
  · cases h
  · have hopen : s.isOpen = true := by simpa using hclosed
    rw [transact_of_open hopen] at h
    cases h
    refine ⟨rfl, rfl, fun key hkey => ⟨hopen, ?_⟩⟩
    by_contra hfit
    exact hlarge (List.any_eq_true.mpr ⟨some key, hkey, by simpa using hfit⟩)

theorem cachedAll_error {f : Fault} (h : s.cachedAll now keys = (.error f, s')) :
    s' = s ∧ (f = .closed ∧ s.isOpen = false ∨
      f = .lineTooLarge ∧ ∃ key, some key ∈ keys ∧ fits key.lineNumber = false) := by
  unfold cachedAll at h
  split_ifs at h with hnone hclosed hlarge
  · cases h
  · cases h
    exact ⟨rfl, .inl ⟨rfl, by simpa using hclosed⟩⟩
  · cases h
    obtain ⟨key, hkey, hfit⟩ := List.any_eq_true.mp hlarge
    cases key with
    | none => cases hfit
    | some key => exact ⟨rfl, .inr ⟨rfl, key, hkey, by simpa using hfit⟩⟩
  · rw [transact_of_open (by simpa using hclosed)] at h
    cases h

/-- A lookup in an open store fails only on a key that does not fit. -/
theorem cachedAll_of_open (hopen : s.isOpen = true) (now : τ) (keys : List (Option CacheKey)) :
    (s.cachedAll now keys).1 =
      if keys.any (·.any (!fits ·.lineNumber)) then .error .lineTooLarge
      else .ok (keys.map (·.bind (s.written.cached? now))) := by
  rcases hlookup : s.cachedAll now keys with ⟨result, s'⟩
  cases result with
  | error f =>
    obtain ⟨-, ⟨-, hclosed⟩ | ⟨rfl, key, hkey, hlarge⟩⟩ := cachedAll_error hlookup
    · cases hclosed.symm.trans hopen
    · rw [if_pos]
      exact List.any_eq_true.mpr ⟨some key, hkey, by simpa using hlarge⟩
  | ok found =>
    obtain ⟨rfl, -, hkeys⟩ := cachedAll_ok hlookup
    rw [if_neg]
    intro hany
    obtain ⟨key, hkey, hlarge⟩ := List.any_eq_true.mp hany
    cases key with
    | none => cases hlarge
    | some key => simp [(hkeys key hkey).2] at hlarge

theorem cached?_of_open {key : CacheKey} (hopen : s.isOpen = true)
    (hfit : fits key.lineNumber = true) (time : τ) :
    (s.cached? time key).1 = .ok (s.written.cached? time key) := by
  have hlookup : (s.cachedAll time [some key]).1 = .ok [s.written.cached? time key] := by
    rw [cachedAll_of_open hopen]
    simp [hfit]
  exact congrArg (Except.map fun l => l.head?.join) hlookup

end Lookup

/-- Entries whose keys fit are cached, if the store is open. -/
theorem cacheAll_of_fits [Add τ] (now : τ) {entries : List (CacheKey × ν)}
    (h : ∀ entry ∈ entries, s.isOpen = true ∧ fits entry.1.lineNumber = true) :
    ∃ s', s.cacheAll now entries = (.ok (), s') ∧
      s'.written = s.written.cacheAllUntil (now + s.ttl) entries := by
  unfold cacheAll
  split
  case isTrue hempty =>
    rw [List.isEmpty_iff.mp hempty]
    exact ⟨s, rfl, rfl⟩
  case isFalse hentries =>
    obtain ⟨entry, hentry⟩ := List.exists_mem_of_ne_nil entries (by simpa using hentries)
    have hopen := (h entry hentry).1
    have hfit : entries.all (fits ·.1.lineNumber) = true :=
      List.all_eq_true.mpr fun entry hentry => (h entry hentry).2
    rw [if_neg (by simp [hopen]), if_pos hfit, transact_of_open hopen]
    exact ⟨_, rfl, rfl⟩

theorem cacheAll_ok [Add τ] {now : τ} {entries : List (CacheKey × ν)}
    (h : s.cacheAll now entries = (.ok (), s')) :
    s'.written = s.written.cacheAllUntil (now + s.ttl) entries ∧
      (entries ≠ [] → s'.saved = s'.written) := by
  unfold cacheAll at h
  split_ifs at h with hempty hclosed hfit
  · cases h
    have hnil := List.isEmpty_iff.mp hempty
    exact ⟨by rw [hnil]; rfl, fun hne => absurd hnil hne⟩
  · cases h
  · rw [transact_of_open (by simpa using hclosed)] at h
    cases h
    exact ⟨rfl, fun _ => rfl⟩
  · cases h

/-- A batch that is refused ends before the first line that does not fit, and what comes before that
is written and not saved. -/
theorem cacheAll_error [Add τ] {now : τ} {entries : List (CacheKey × ν)} {f : Fault}
    (h : s.cacheAll now entries = (.error f, s')) :
    f = .closed ∧ s' = s ∨
      f = .lineTooLarge ∧ s.isOpen = true ∧ ∃ before entry after,
        entries = before ++ entry :: after ∧ (∀ e ∈ before, fits e.1.lineNumber = true) ∧
        fits entry.1.lineNumber = false ∧
        s' = { s with written := s.written.cacheAllUntil (now + s.ttl) before } := by
  unfold cacheAll at h
  split_ifs at h with hempty hclosed hfit
  · cases h
  · cases h
    exact .inl ⟨rfl, rfl⟩
  · rw [transact_of_open (by simpa using hclosed)] at h
    cases h
  · cases h
    right
    have hrest : entries.dropWhile (fits ·.1.lineNumber) ≠ [] := by
      intro hnil
      exact hfit (List.all_eq_true.mpr (List.dropWhile_eq_nil_iff.mp hnil))
    obtain ⟨entry, after, hsplit⟩ := List.exists_cons_of_ne_nil hrest
    have hentry : fits entry.1.lineNumber = false := by
      simpa [hsplit] using List.head_dropWhile_not _ hrest
    have hbefore : ∀ e ∈ entries.takeWhile (fits ·.1.lineNumber), fits e.1.lineNumber = true :=
      fun e he => (List.mem_takeWhile_imp he :)
    refine ⟨rfl, by simpa using hclosed, entries.takeWhile (fits ·.1.lineNumber), entry, after, ?_,
      hbefore, hentry, rfl⟩
    rw [← hsplit, List.takeWhile_append_dropWhile]

end CodeTwins.Store
