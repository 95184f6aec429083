import CodeTwins.Proofs.Pattern.Spans

/-!
# Matching goes forward

Whatever an expression is made of, a way to match it goes on from a mark that is not before the one
where it began. So a match never stops before it starts. What is found in a text is what is matched at
some place of it.
-/
namespace CodeTwins.Pattern

/-- A result of the step is one of the continuation at a mark that is not before the first. -/
def Step.Advances (step : Step) : Prop :=
  ∀ ⦃m k r⦄, step m k = some r → ∃ m', m.pos ≤ m'.pos ∧ k m' = some r

private theorem Expr.advances_run (text : Array Char) (e : Expr) : (e.run text).Advances := by
  intro m k r h
  obtain ⟨m', hspans, hk⟩ := e.leads_run text h
  exact ⟨m', Nat.le_trans (Nat.le_add_right _ _) hspans.bounds.1, hk⟩

namespace Expr

variable {e : Expr} {text : Array Char} {pos : Nat} {advance : Bool} {found : Match}

theorem spans_of_matchAt (h : e.matchAt text pos advance = some found) :
    found.start = pos ∧ e.Spans text ⟨pos, []⟩ ⟨found.stop, found.spans⟩ ∧
      (advance = true → found.stop ≠ pos) := by
  obtain ⟨m, hrun, rfl⟩ := Option.map_eq_some_iff.mp h
  obtain ⟨m', hspans, hk⟩ := e.leads_run text hrun
  split at hk
  case isTrue => cases hk
  case isFalse hmoved =>
    obtain rfl : m' = m := Option.some.inj hk
    refine ⟨rfl, hspans, ?_⟩
    rintro rfl
    simpa using hmoved

theorem start_le_stop_of_matchAt (h : e.matchAt text pos advance = some found) :
    found.start ≤ found.stop := by
  obtain ⟨m, hrun, rfl⟩ := Option.map_eq_some_iff.mp h
  obtain ⟨m', hm', hk⟩ := e.advances_run text hrun
  split at hk
  · cases hk
  · obtain rfl : m' = m := Option.some.inj hk
    exact hm'

private theorem matchAt_of_findFrom (h : e.findFrom text pos advance = some found) :
    ∃ advance, e.matchAt text found.start advance = some found := by
  fun_induction e.findFrom text pos advance with
  | case1 pos advance first hfirst =>
    cases h
    obtain ⟨rfl, -⟩ := spans_of_matchAt hfirst
    exact ⟨advance, hfirst⟩
  | case2 pos advance _ _ ih => exact ih h
  | case3 => cases h

/-- A match among those of a text is the match at its start. -/
theorem matchAt_of_mem_matches (h : found ∈ e.matches text) :
    ∃ advance, e.matchAt text found.start advance = some found := by
  have hfrom : ∀ fuel pos advance, found ∈ e.matchesFrom text fuel pos advance →
      ∃ advance, e.matchAt text found.start advance = some found := by
    intro fuel
    induction fuel with
    | zero => intro pos advance h; cases h
    | succ fuel ih =>
      intro pos advance h
      unfold matchesFrom at h
      split at h
      case h_1 first hfirst =>
        rcases List.mem_cons.mp h with rfl | h
        · exact matchAt_of_findFrom hfirst
        · exact ih _ _ h
      case h_2 => cases h
  exact hfrom _ _ _ h

/-- A match does not stop before it starts. -/
theorem start_le_stop (h : found ∈ e.matches text) : found.start ≤ found.stop := by
  obtain ⟨_, hat⟩ := matchAt_of_mem_matches h
  exact start_le_stop_of_matchAt hat

end Expr

end CodeTwins.Pattern
