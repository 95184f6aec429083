import CodeTwins.Decimal.Shortest
import CodeTwins.Proofs.Decimal.Nearest

/-!
# The shortest decimal of a double

The shortest decimal is found among those of at most eighteen digits, and is rounded to the double.
-/
namespace CodeTwins.Decimal

variable {units : Nat} {exponent : Int}

private theorem scaled_pos (n : Nat) {base : Nat} (hbase : 0 < base) (e : Int) :
    0 < (scaled n base e).2 := by
  unfold scaled
  split
  · exact Nat.one_pos
  · exact Nat.pow_pos hbase

private theorem scaled_eq (n : Nat) {base : Nat} (hbase : 0 < base) (e : Int) :
    ((scaled n base e).1 : ℚ) / (scaled n base e).2 = n * base ^ e := by
  have hne : (base : ℚ) ≠ 0 := by exact_mod_cast hbase.ne'
  unfold scaled
  split
  case isTrue h =>
    obtain ⟨e, rfl⟩ := Int.eq_ofNat_of_zero_le h
    rw [Int.toNat_natCast, zpow_natCast, Nat.cast_one, div_one]
    exact Nat.cast_mul _ _ |>.trans (by rw [← Nat.cast_pow]; rfl)
  case isFalse h =>
    obtain ⟨n', rfl⟩ : ∃ m : Nat, e = -(m : Int) := ⟨(-e).toNat, by omega⟩
    rw [neg_neg, Int.toNat_natCast, zpow_neg, zpow_natCast, ← div_eq_mul_inv, ← Nat.cast_pow]
    rfl

namespace Interval

variable {i : Interval} {n : Nat} {e : Int}

/-- What an interval contains, in terms of quotients. -/
theorem contains_iff (hden : 0 < i.den) :
    i.contains n e = true ↔
      if i.closed then (i.low : ℚ) / i.den ≤ n * 10 ^ e ∧ (n : ℚ) * 10 ^ e ≤ i.high / i.den
      else (i.low : ℚ) / i.den < n * 10 ^ e ∧ (n : ℚ) * 10 ^ e < i.high / i.den := by
  have hscaled := scaled_eq n (by decide : 0 < 10) e
  have hpos : (0 : ℚ) < (scaled n 10 e).2 := by exact_mod_cast scaled_pos n (by decide) e
  have hden : (0 : ℚ) < i.den := by exact_mod_cast hden
  push_cast at hscaled
  rw [← hscaled, div_le_div_iff₀ hden hpos, div_le_div_iff₀ hpos hden, div_lt_div_iff₀ hden hpos,
    div_lt_div_iff₀ hpos hden]
  simp only [contains]
  split
  · rw [Bool.and_eq_true, decide_eq_true_iff, decide_eq_true_iff]
    norm_cast
  · rw [Bool.and_eq_true, decide_eq_true_iff, decide_eq_true_iff]
    norm_cast

private theorem contains_of_pointOn (h : i.pointOn e = some n) : i.contains n e = true := by
  simp only [pointOn] at h
  split at h
  · split at h <;> cases h <;> assumption
  · cases h
    assumption
  · cases h
    assumption
  · cases h

/-- The number below the value on a grid decides whether the grid has a point, if it is contained. -/
theorem exists_pointOn
    (h : i.contains ((scaled i.value 10 (-e)).1 / (i.den * (scaled i.value 10 (-e)).2)) e = true) :
    ∃ n, i.pointOn e = some n := by
  simp only [pointOn, h]
  split
  · exact ⟨_, rfl⟩
  · exact ⟨_, rfl⟩
  · rename_i hfloor _
    cases hfloor
  · rename_i hfloor _
    cases hfloor

private theorem coarsest_spec {lead : Int} {fuel digits last : Nat} (hlast : digits ≤ last)
    (hfuel : last < digits + fuel) (hpoint : ∃ n, i.pointOn (lead - last) = some n) :
    i.contains (i.coarsest lead fuel digits).1 (i.coarsest lead fuel digits).2 = true := by
  induction fuel generalizing digits with
  | zero => omega
  | succ fuel ih =>
    simp only [coarsest]
    split
    · rename_i n hn
      exact contains_of_pointOn hn
    · rename_i hnone
      rcases hlast.eq_or_lt with rfl | hlt
      · obtain ⟨n, hn⟩ := hpoint
        rw [hn] at hnone
        cases hnone
      · exact ih hlt (by omega)

end Interval

private theorem den_intervalOf_pos : 0 < (intervalOf units exponent).den :=
  scaled_pos 1 (by decide) _

private theorem quarter_intervalOf :
    ((scaled 1 2 (exponent - 2)).1 : ℚ) / (scaled 1 2 (exponent - 2)).2 = 2 ^ exponent / 4 := by
  have hpower := scaled_eq 1 (by decide : 0 < 2) (exponent - 2)
  rw [hpower, Nat.cast_one, one_mul, Nat.cast_ofNat, zpow_sub₀ (by norm_num)]
  norm_num

private theorem value_intervalOf :
    ((intervalOf units exponent).value : ℚ) / (intervalOf units exponent).den =
      units * 2 ^ exponent := by
  have hquarter := @quarter_intervalOf exponent
  simp only [intervalOf]
  push_cast
  rw [mul_div_assoc, hquarter]
  ring

private theorem near_iff {x : ℚ} :
    Near units exponent x ↔
      if units % 2 = 0 then
        (units - reach units exponent) * 2 ^ exponent ≤ x ∧ x ≤ (units + 1 / 2) * 2 ^ exponent
      else (units - reach units exponent) * 2 ^ exponent < x ∧ x < (units + 1 / 2) * 2 ^ exponent := by
  have htwo := two_zpow_pos exponent
  rw [← le_div_iff₀ htwo, ← div_le_iff₀ htwo, ← lt_div_iff₀ htwo, ← div_lt_iff₀ htwo]
  split
  case isTrue heven =>
    exact ⟨fun h => ⟨h.above.elim le_of_lt fun h => h.1.le, h.ge⟩, fun h =>
      ⟨h.1.lt_or_eq.imp_right fun h => ⟨h, heven⟩, h.2.lt_or_eq.imp_right fun h => ⟨h, heven⟩⟩⟩
  case isFalse hodd =>
    exact ⟨fun h => ⟨h.above.resolve_right fun h => hodd h.2, h.below.resolve_right fun h => hodd h.2⟩,
      fun h => ⟨.inl h.1, .inl h.2⟩⟩

/-- The interval of a double holds what is rounded to it. -/
theorem contains_intervalOf (hpos : 0 < units) {n : Nat} {e : Int} :
    (intervalOf units exponent).contains n e = true ↔ Near units exponent (n * 10 ^ e) := by
  have hquarter := @quarter_intervalOf exponent
  have hlow : ((intervalOf units exponent).low : ℚ) / (intervalOf units exponent).den =
      (units - reach units exponent) * 2 ^ exponent := by
    by_cases hnarrow : units = 0x10000000000000 ∧ -1074 < exponent
    · have hreach : reach units exponent = 1 / 4 := if_pos hnarrow
      simp only [intervalOf, if_pos hnarrow, hreach]
      rw [Nat.cast_mul, Nat.cast_sub (by omega), mul_div_assoc, hquarter]
      push_cast
      ring
    · have hreach : reach units exponent = 1 / 2 := if_neg hnarrow
      simp only [intervalOf, if_neg hnarrow, hreach]
      rw [Nat.cast_mul, Nat.cast_sub (by omega), mul_div_assoc, hquarter]
      push_cast
      ring
  have hhigh : ((intervalOf units exponent).high : ℚ) / (intervalOf units exponent).den =
      (units + 1 / 2) * 2 ^ exponent := by
    simp only [intervalOf]
    push_cast
    rw [mul_div_assoc, hquarter]
    ring
  have hclosed : (intervalOf units exponent).closed = decide (units % 2 = 0) := rfl
  rw [Interval.contains_iff den_intervalOf_pos, hlow, hhigh, hclosed, near_iff]
  simp only [decide_eq_true_iff]

/-- The leading exponent does not go beyond the number. -/
theorem leadingExponent_le {num den : Nat} (hnum : 0 < num) (hden : 0 < den) :
    (10 : ℚ) ^ leadingExponent num den ≤ num / den := by
  have hden' : (0 : ℚ) < den := by exact_mod_cast hden
  simp only [leadingExponent]
  split
  case isTrue h =>
    have hscaled := scaled_eq den (by decide : 0 < 10) ((digitCount num : Int) - digitCount den)
    have hpos : (0 : ℚ) < (scaled den 10 ((digitCount num : Int) - digitCount den)).2 := by
      exact_mod_cast scaled_pos den (by decide) _
    rw [le_div_iff₀ hden', mul_comm]
    push_cast at hscaled
    rw [← hscaled, div_le_iff₀ hpos]
    exact_mod_cast h
  case isFalse h =>
    have hlow : (10 : ℚ) ^ ((digitCount num : Int) - 1) ≤ num := by
      have := pow_le_of_pos hnum
      rw [← Nat.cast_one, ← Nat.cast_sub (digitCount_pos num), zpow_natCast]
      exact_mod_cast this
    have hhigh : (den : ℚ) ≤ 10 ^ (digitCount den : Int) := by
      rw [zpow_natCast]
      exact_mod_cast (lt_pow_digitCount den).le
    rw [le_div_iff₀ hden']
    calc
      (10 : ℚ) ^ ((digitCount num : Int) - digitCount den - 1) * den ≤
          10 ^ ((digitCount num : Int) - digitCount den - 1) * 10 ^ (digitCount den : Int) :=
        mul_le_mul_of_nonneg_left hhigh (zpow_nonneg (by norm_num) _)
      _ = 10 ^ ((digitCount num : Int) - 1) := by
        rw [← zpow_add₀ (by norm_num)]
        congr 1
        omega
      _ ≤ num := hlow

/-- The number below a quotient on a grid. -/
theorem floor_bounds (v : Nat) {den : Nat} (hden : 0 < den) (e : Int) :
    let floor := (scaled v 10 (-e)).1 / (den * (scaled v 10 (-e)).2)
    (floor : ℚ) * 10 ^ e ≤ v / den ∧ (v : ℚ) / den < (floor + 1) * 10 ^ e := by
  intro floor
  have hscaled := scaled_eq v (by decide : 0 < 10) (-e)
  have hpos := scaled_pos v (by decide : 0 < 10) (-e)
  have hden' : (0 : ℚ) < den := by exact_mod_cast hden
  have hpos' : (0 : ℚ) < (scaled v 10 (-e)).2 := by exact_mod_cast hpos
  have hten : (0 : ℚ) < 10 ^ e := zpow_pos (by norm_num) e
  have hvalue : (v : ℚ) / den =
      ((scaled v 10 (-e)).1 : ℚ) / (den * (scaled v 10 (-e)).2 : Nat) * 10 ^ e := by
    push_cast at hscaled ⊢
    rw [mul_comm (den : ℚ), ← div_div, hscaled, zpow_neg]
    field_simp
  have hprod : (0 : ℚ) < (den * (scaled v 10 (-e)).2 : Nat) := by
    exact_mod_cast Nat.mul_pos hden hpos
  rw [hvalue]
  constructor
  · refine mul_le_mul_of_nonneg_right ?_ hten.le
    rw [le_div_iff₀ hprod]
    exact_mod_cast Nat.div_mul_le_self _ _
  · refine mul_lt_mul_of_pos_right ?_ hten
    rw [div_lt_iff₀ hprod]
    exact_mod_cast Nat.lt_mul_of_div_lt (Nat.lt_succ_self _) (Nat.mul_pos hden hpos)

/-- The grid of eighteen digits is fine enough for every double. -/
theorem exists_pointOn_intervalOf (hd : IsDouble units exponent) {lead : Int}
    (hlead : (10 : ℚ) ^ lead ≤ units * 2 ^ exponent) :
    ∃ n, (intervalOf units exponent).pointOn (lead - 17) = some n := by
  refine Interval.exists_pointOn ((contains_intervalOf hd.pos).mpr ?_)
  obtain ⟨hlow, hhigh⟩ := floor_bounds (intervalOf units exponent).value
    (@den_intervalOf_pos units exponent) (lead - 17)
  rw [value_intervalOf] at hlow hhigh
  generalize (scaled (intervalOf units exponent).value 10 (-(lead - 17))).1 /
    ((intervalOf units exponent).den *
      (scaled (intervalOf units exponent).value 10 (-(lead - 17))).2) = floor at hlow hhigh ⊢
  have htwo := two_zpow_pos exponent
  have hgrid : (10 : ℚ) ^ (lead - 17) ≤ units * 2 ^ exponent / 10 ^ 17 := by
    rw [zpow_sub₀ (by norm_num), div_le_div_iff₀ (by norm_num) (by norm_num)]
    exact mul_le_mul_of_nonneg_right hlead (by norm_num)
  have hunits : (units : ℚ) < 2 ^ 53 := by exact_mod_cast hd.lt
  have hreach := @le_reach units exponent
  constructor
  · left
    rw [lt_div_iff₀ htwo]
    have hfine : (units : ℚ) * 2 ^ exponent / 10 ^ 17 ≤ 1 / 4 * 2 ^ exponent := by
      rw [mul_div_right_comm]
      exact mul_le_mul_of_nonneg_right (by linarith) htwo.le
    have hreach' : 1 / 4 * 2 ^ exponent ≤ reach units exponent * 2 ^ exponent :=
      mul_le_mul_of_nonneg_right hreach htwo.le
    linarith
  · left
    rw [div_lt_iff₀ htwo]
    linarith

/-- The shortest decimal of a double is rounded to it. -/
theorem shortest_spec (hd : IsDouble units exponent) :
    0 < (shortest units exponent).1 ∧
      Near units exponent ((shortest units exponent).1 * 10 ^ (shortest units exponent).2) := by
  have hvalue : 0 < (intervalOf units exponent).value := by
    have hpos : (0 : ℚ) < (intervalOf units exponent).value / (intervalOf units exponent).den := by
      rw [value_intervalOf]
      exact mul_pos (by exact_mod_cast hd.pos) (two_zpow_pos exponent)
    by_contra hzero
    rw [Nat.eq_zero_of_not_pos hzero, Nat.cast_zero, zero_div] at hpos
    exact lt_irrefl _ hpos
  have hlead := leadingExponent_le hvalue (@den_intervalOf_pos units exponent)
  rw [value_intervalOf] at hlead
  have hnear : Near units exponent ((shortest units exponent).1 * 10 ^ (shortest units exponent).2) :=
    (contains_intervalOf hd.pos).mp
      (Interval.coarsest_spec (Nat.zero_le 17) (by decide) (exists_pointOn_intervalOf hd hlead))
  refine ⟨?_, hnear⟩
  by_contra hzero
  have hle := hnear.le
  rw [Nat.eq_zero_of_not_pos hzero, Nat.cast_zero, zero_mul, zero_div] at hle
  have : (1 : ℚ) ≤ units := by exact_mod_cast hd.pos
  linarith

end CodeTwins.Decimal
