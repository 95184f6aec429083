import CodeTwins.Proofs.Pattern.Match

/-!
# Which matches are found

Matches are looked for from left to right, and a new one from where the one before it stopped. So a match
is among them if none that starts before it stops beyond its start.
-/
namespace CodeTwins.Pattern.Expr

variable {e : Expr} {text : Array Char} {pos : Nat} {advance : Bool} {found : Match}

/-- If there is only one way to match, it is found. -/
theorem matchAt_of_spans (he : e.isExhaustive = true) {m : Mark} (hspans : e.Spans text ⟨pos, []⟩ m)
    (honly : ∀ m', e.Spans text ⟨pos, []⟩ m' → m' = m) (hmove : pos < m.pos) (advance : Bool) :
    e.matchAt text pos advance = some ⟨pos, m.pos, m.spans⟩ := by
  have hsome : (e.matchAt text pos advance).isSome = true := by
    unfold matchAt
    rw [Option.isSome_map, isSome_run_iff he]
    refine ⟨m, hspans, ?_⟩
    simp [Nat.ne_of_gt hmove]
  obtain ⟨found, hfound⟩ := Option.isSome_iff_exists.mp hsome
  obtain ⟨hstart, hspans', -⟩ := spans_of_matchAt hfound
  rw [hfound, ← honly _ hspans', ← hstart]

/-- What is found first is not beyond a match that does not depend on what has been found before. -/
theorem exists_findFrom (advance : Bool)
    (hat : ∀ advance, e.matchAt text found.start advance = some found)
    (hsize : found.start ≤ text.size) (hpos : pos ≤ found.start) :
    ∃ first, e.findFrom text pos advance = some first ∧ pos ≤ first.start ∧
      first.start ≤ found.start ∧ ∃ advance', e.matchAt text first.start advance' = some first ∧
        (first.start = pos → advance' = advance) := by
  fun_induction e.findFrom text pos advance with
  | case1 pos advance first hfirst =>
    obtain ⟨rfl, -⟩ := spans_of_matchAt hfirst
    exact ⟨first, rfl, Nat.le_refl _, hpos, advance, hfirst, fun _ => rfl⟩
  | case2 pos advance hnone hlt ih =>
    have hne : pos ≠ found.start := by
      rintro rfl
      rw [hat] at hnone
      cases hnone
    obtain ⟨first, hfirst, hle, hend, advance', hmatch, -⟩ := ih (by omega)
    exact ⟨first, hfirst, by omega, hend, advance', hmatch, by omega⟩
  | case3 pos advance hnone hend =>
    obtain rfl : pos = found.start := by omega
    rw [hat] at hnone
    cases hnone

/-- A match is found if no match that starts before it stops beyond its start. -/
theorem mem_matches (hat : ∀ advance, e.matchAt text found.start advance = some found)
    (hsize : found.start ≤ text.size)
    (hearlier : ∀ advance first, first.start < found.start →
      e.matchAt text first.start advance = some first → first.stop ≤ found.start) :
    found ∈ e.matches text := by
  -- an empty match may stay at a place, but only once, so the fuel counts two for each place
  have hfrom : ∀ fuel pos advance, pos ≤ found.start →
      2 * (found.start - pos) + (!advance).toNat < fuel →
      found ∈ e.matchesFrom text fuel pos advance := by
    intro fuel
    induction fuel with
    | zero => intro pos advance _ hfuel; cases hfuel
    | succ fuel ih =>
      intro pos advance hpos hfuel
      obtain ⟨first, hfirst, hle, hend, advance', hmatch, hsame⟩ :=
        exists_findFrom advance hat hsize hpos
      unfold matchesFrom
      rw [hfirst]
      dsimp only
      by_cases hhere : first.start = found.start
      · have heq : found = first := by
          rw [hhere, hat] at hmatch
          exact Option.some.inj hmatch
        exact heq ▸ .head _
      · have hstop := hearlier advance' first (by omega) hmatch
        have hforward := start_le_stop_of_matchAt hmatch
        refine .tail _ (ih _ _ hstop (Nat.lt_of_lt_of_le ?_ (Nat.le_of_lt_succ hfuel)))
        by_cases hmoved : pos < first.stop
        · have hone := Bool.toNat_le (!decide (first.stop = first.start))
          omega
        · -- the match is empty and stands at the place, where none may be empty again
          obtain rfl : first.start = pos := by omega
          have hempty : first.stop = first.start := by omega
          have hfresh : advance = false := by
            rw [← hsame rfl, ← Bool.not_eq_true]
            exact fun hadvance => (spans_of_matchAt hmatch).2.2 hadvance hempty
          simp [hempty, hfresh]
  exact hfrom _ _ _ (Nat.zero_le _) (by simp; omega)

end CodeTwins.Pattern.Expr
