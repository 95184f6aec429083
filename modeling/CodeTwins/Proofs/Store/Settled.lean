import CodeTwins.Proofs.Store.Outcome

/-!
# Settled stores

A store is settled if all that it has written is saved. To read a settled store leaves it exactly as
it is, and only a batch of cache writes that is refused at a line leaves something to be saved.
-/
namespace CodeTwins.Store

variable {ε ν τ β : Type} {s s' : Store ε ν τ}

/-- All that is written is saved. -/
def Settled (s : Store ε ν τ) : Prop :=
  s.saved = s.written

theorem settled_empty (ttl : τ) : (empty ttl : Store ε ν τ).Settled := rfl

namespace Settled

theorem eq_of_written (hs : s.Settled) (hs' : s'.Settled) (hwritten : s'.written = s.written)
    (hsetup : s'.setup = s.setup) : s' = s :=
  eq_of_parts (hs'.trans (hwritten.trans hs.symm)) hwritten hsetup

theorem transact (hs : s.Settled) (f : Tables ε ν τ → Tables ε ν τ × β) :
    (s.transact f).2.Settled := by
  unfold Store.transact
  split
  · rfl
  · exact hs

theorem putAll (hs : s.Settled) (rs : List (Record ε ν)) : (s.putAll rs).2.Settled := by
  unfold Store.putAll
  split
  · exact hs
  · exact hs.transact _

theorem cacheAll [Add τ] (hs : s.Settled) (now : τ) {entries : List (CacheKey × ν)}
    (hfits : ∀ entry ∈ entries, fits entry.1.lineNumber = true) :
    (s.cacheAll now entries).2.Settled := by
  have hall : entries.all (fits ·.1.lineNumber) = true := by simpa using hfits
  unfold Store.cacheAll
  rw [if_pos hall]
  split_ifs
  · exact hs
  · exact hs
  · exact hs.transact _

/-- A transaction that changes no table changes nothing. -/
theorem read (hs : s.Settled) (f : Tables ε ν τ → β) : (s.transact fun t => (t, f t)).2 = s := by
  refine hs.eq_of_written (hs.transact _) ?_ (setup_transact s _)
  rw [written_transact]
  split <;> rfl

theorem transact_read (hs : s.Settled) (hopen : s.isOpen = true) (f : Tables ε ν τ → β) :
    (s.transact fun t => (t, f t)) = (.ok (f s.written), s) :=
  Prod.ext (by rw [transact_of_open hopen]) (hs.read f)

theorem cachedAll [LT τ] [DecidableRel (α := τ) (· < ·)] (hs : s.Settled) (now : τ)
    (keys : List (Option CacheKey)) : (s.cachedAll now keys).2 = s := by
  unfold Store.cachedAll
  split_ifs
  · rfl
  · rfl
  · rfl
  · exact hs.read _

end Settled

end CodeTwins.Store
