import CodeTwins.Decimal.Double
import Mathlib

/-!
# Rounding to doubles

A positive number is rounded to the double that it is nearest to, in a tie to the one with an even
number of units. The quotient and the product of two doubles are rounded so.
-/
namespace CodeTwins.Decimal

open Float.Model
open Float.Model.UnpackedFloat (Accuracy ExtendedMantissa)

/-- Units and exponent of a positive finite double. -/
structure IsDouble (units : Nat) (exponent : Int) : Prop where
  pos : 0 < units
  lt : units < 2 ^ 53
  low : -1074 ≤ exponent
  high : exponent ≤ 971
  normal : 2 ^ 52 ≤ units ∨ exponent = -1074

/-- How far below a double the numbers reach that are rounded to it, in units. Below a power of two
the doubles are closer together. -/
def reach (units : Nat) (exponent : Int) : ℚ :=
  if units = 2 ^ 52 ∧ -1074 < exponent then 1 / 4 else 1 / 2

/-- The number is rounded to the double. The ends count if the number of units is even. -/
structure Near (units : Nat) (exponent : Int) (x : ℚ) : Prop where
  above : units - reach units exponent < x / 2 ^ exponent ∨
    units - reach units exponent = x / 2 ^ exponent ∧ units % 2 = 0
  below : x / 2 ^ exponent < units + 1 / 2 ∨ x / 2 ^ exponent = units + 1 / 2 ∧ units % 2 = 0

/-- What a mantissa with the two bits after it tells of a number. -/
def Tells (em : ExtendedMantissa) (x : ℚ) : Prop :=
  match em.roundBit, em.stickyBit with
  | false, false => x = em.mantissa
  | false, true => em.mantissa < x ∧ x < em.mantissa + 1 / 2
  | true, false => x = em.mantissa + 1 / 2
  | true, true => em.mantissa + 1 / 2 < x ∧ x < em.mantissa + 1

namespace Tells

variable {em : ExtendedMantissa} {x : ℚ}

private theorem le (h : Tells em x) : (em.mantissa : ℚ) ≤ x := by
  obtain ⟨m, r, s⟩ := em
  cases r <;> cases s <;> simp only [Tells] at h ⊢ <;> linarith

private theorem lt (h : Tells em x) : x < em.mantissa + 1 := by
  obtain ⟨m, r, s⟩ := em
  cases r <;> cases s <;> simp only [Tells] at h ⊢ <;> linarith

private theorem shiftRightOne (h : Tells em x) : Tells em.shiftRightOne (x / 2) := by
  obtain ⟨m, r, s⟩ := em
  have hm : (m : ℚ) = 2 * (m / 2 : Nat) + (m % 2 : Nat) := by
    exact_mod_cast (Nat.div_add_mod m 2).symm
  rcases Nat.mod_two_eq_zero_or_one m with hbit | hbit <;> rw [hbit] at hm <;> push_cast at hm <;>
    cases r <;> cases s <;> simp only [Tells, ExtendedMantissa.shiftRightOne, hbit] at h ⊢ <;>
    simp <;> (try constructor) <;> linarith

private theorem shiftRight (h : Tells em x) (n : Nat) : Tells (em >>> n) (x / 2 ^ n) := by
  change Tells (n.repeat ExtendedMantissa.shiftRightOne em) _
  induction n with
  | zero => simpa [Nat.repeat] using h
  | succ n ih =>
    rw [pow_succ, ← div_div]
    exact ih.shiftRightOne

/-- The mantissa is rounded to what is nearest, in a tie to what is even. -/
theorem roundedMantissa_eq (h : Tells em x) {n : Nat}
    (hlow : (n : ℚ) - 1 / 2 < x ∨ (n : ℚ) - 1 / 2 = x ∧ n % 2 = 0)
    (hhigh : x < n + 1 / 2 ∨ x = n + 1 / 2 ∧ n % 2 = 0) : em.roundedMantissa = n := by
  have hlow' : (n : ℚ) - 1 / 2 ≤ x := hlow.elim le_of_lt fun h => h.1.le
  have hhigh' : x ≤ n + 1 / 2 := hhigh.elim le_of_lt fun h => h.1.le
  have hle : n ≤ em.mantissa + 1 := by
    have : (n : ℚ) < em.mantissa + 2 := by linarith [h.lt]
    exact Nat.lt_succ_iff.mp (by exact_mod_cast this)
  have hge : em.mantissa ≤ n := by
    have : (em.mantissa : ℚ) < n + 1 := by linarith [h.le]
    exact Nat.lt_succ_iff.mp (by exact_mod_cast this)
  obtain ⟨m, r, s⟩ := em
  simp only [Tells] at h hle hge
  simp only [ExtendedMantissa.roundedMantissa]
  -- The next natural number is too far away below the middle, and the mantissa itself above it.
  have hup : x < m + 1 / 2 → n = m := by
    intro hx
    have : (n : ℚ) < m + 1 := by linarith
    have : n < m + 1 := by exact_mod_cast this
    omega
  have hdown : (m : ℚ) + 1 / 2 < x → n = m + 1 := by
    intro hx
    have : (m : ℚ) < n := by linarith
    have : m < n := by exact_mod_cast this
    omega
  cases r <;> cases s
  · exact (hup (by linarith)).symm
  · exact (hup h.2).symm
  · obtain rfl | rfl : n = m ∨ n = m + 1 := by omega
    · have heven : n % 2 = 0 := by
        rcases hhigh with hx | hx
        · exact absurd h hx.ne
        · exact hx.2
      simp [ExtendedMantissa.accuracy, Accuracy.roundToNearestEven, heven]
    · have hodd : m % 2 = 1 := by
        rcases hlow with hx | hx
        · push_cast at hx
          linarith
        · omega
      simp [ExtendedMantissa.accuracy, Accuracy.roundToNearestEven, hodd]
  · exact (hdown h.1).symm

end Tells

section Target

variable {units m : Nat} {exponent e : Int} {x : ℚ}

theorem le_reach : 1 / 4 ≤ reach units exponent := by
  unfold reach
  split <;> norm_num

private theorem reach_le : reach units exponent ≤ 1 / 2 := by
  unfold reach
  split <;> norm_num

theorem targetExponent_eq (m : Nat) (e : Int) :
    Format.binary64.targetExponent (totalExponent m e) = max (m.log2 + e - 52) (-1074) := by
  simp only [Format.targetExponent, totalExponent, Format.mantissaBits, Format.minExponent]
  norm_num
  omega

theorem two_zpow_pos (e : Int) : (0 : ℚ) < 2 ^ e :=
  zpow_pos (by norm_num) e

private theorem lt_of_two_zpow_lt {a b : Int} (h : (2 : ℚ) ^ a < 2 ^ b) : a < b :=
  (zpow_lt_zpow_iff_right₀ (by norm_num)).mp h

theorem Near.le (h : Near units exponent x) : units - 1 / 2 ≤ x / 2 ^ exponent := by
  have hreach := @reach_le units exponent
  rcases h.above with h | h
  · linarith
  · linarith [h.1]

theorem Near.ge (h : Near units exponent x) : x / 2 ^ exponent ≤ units + 1 / 2 :=
  h.below.elim le_of_lt fun h => h.1.le

/-- A number below the next power of two. -/
theorem lt_two_zpow (h : x / 2 ^ e < m + 1) : x < 2 ^ (m.log2 + 1 + e) := by
  have hm : ((m + 1 : Nat) : ℚ) ≤ (2 ^ (m.log2 + 1) : Nat) := by
    exact_mod_cast Nat.lt_log2_self
  have hx : x < (m + 1) * 2 ^ e := (div_lt_iff₀ (two_zpow_pos e)).mp h
  push_cast at hm
  calc
    x < (m + 1) * 2 ^ e := hx
    _ ≤ 2 ^ (m.log2 + 1) * 2 ^ e := mul_le_mul_of_nonneg_right hm (two_zpow_pos e).le
    _ = 2 ^ ((m.log2 + 1 : Nat) + e) := by rw [zpow_add₀ (by norm_num), zpow_natCast]
    _ = 2 ^ (m.log2 + 1 + e) := by push_cast; rfl

private theorem two_zpow_le (hm : m ≠ 0) (h : m ≤ x / 2 ^ e) : 2 ^ (m.log2 + e) ≤ x := by
  have hpow : ((2 ^ m.log2 : Nat) : ℚ) ≤ m := by
    exact_mod_cast Nat.log2_self_le hm
  push_cast at hpow
  calc
    (2 : ℚ) ^ (m.log2 + e) = 2 ^ m.log2 * 2 ^ e := by rw [zpow_add₀ (by norm_num), zpow_natCast]
    _ ≤ m * 2 ^ e := mul_le_mul_of_nonneg_right hpow (two_zpow_pos e).le
    _ ≤ x := (le_div_iff₀ (two_zpow_pos e)).mp h

/-- The exponent that a number is rounded to is that of its double, but just below a power of two,
where it is one less. -/
theorem targetExponent_of_near (hd : IsDouble units exponent) (hx : Near units exponent x)
    (hlow : m ≤ x / 2 ^ e) (hhigh : x / 2 ^ e < m + 1)
    (he : e ≤ Format.binary64.targetExponent (totalExponent m e)) :
    Format.binary64.targetExponent (totalExponent m e) = exponent ∨
      Format.binary64.targetExponent (totalExponent m e) = exponent - 1 ∧ units = 2 ^ 52 ∧
        -1074 < exponent ∧ x / 2 ^ exponent < 2 ^ 52 := by
  have hrange := hd.low
  have hbound : ((m.log2 : Nat) : Int) + e - 52 ≤ exponent := by
    by_cases hm : m = 0
    · rw [targetExponent_eq] at he
      simp only [hm, Nat.log2_zero] at he ⊢
      omega
    · have hunits : (units : ℚ) + 1 ≤ 2 ^ 53 := by exact_mod_cast hd.lt
      have hlt : x / 2 ^ exponent < 2 ^ 53 := by linarith [hx.ge]
      have hlt : (2 : ℚ) ^ (m.log2 + e) < 2 ^ (53 + exponent) :=
        calc
          (2 : ℚ) ^ (m.log2 + e) ≤ x := two_zpow_le hm hlow
          _ < 2 ^ 53 * 2 ^ exponent := (div_lt_iff₀ (two_zpow_pos exponent)).mp hlt
          _ = 2 ^ (53 + exponent) := by rw [zpow_add₀ (by norm_num)]; norm_cast
      have := lt_of_two_zpow_lt hlt
      omega
  rw [targetExponent_eq]
  rcases hd.normal with hunits | hsub
  swap
  · left
    omega
  by_cases hlowest : exponent = -1074
  · left
    omega
  have hunits' : (2 : ℚ) ^ 52 ≤ units := by exact_mod_cast hunits
  have hnear : 2 ^ (51 + exponent) < (2 : ℚ) ^ (m.log2 + 1 + e) :=
    calc
      (2 : ℚ) ^ (51 + exponent) = 2 ^ 51 * 2 ^ exponent := by
        rw [zpow_add₀ (by norm_num)]; norm_cast
      _ ≤ x := (le_div_iff₀ (two_zpow_pos exponent)).mp (by linarith [hx.le])
      _ < 2 ^ (m.log2 + 1 + e) := lt_two_zpow hhigh
  have hnear := lt_of_two_zpow_lt hnear
  by_cases hequal : ((m.log2 : Nat) : Int) + e - 52 = exponent
  · left
    omega
  right
  have hbelow : x / 2 ^ exponent < 2 ^ 52 := by
    rw [div_lt_iff₀ (two_zpow_pos exponent)]
    calc
      x < 2 ^ (m.log2 + 1 + e) := lt_two_zpow hhigh
      _ = 2 ^ (52 + exponent) := by
        congr 1
        omega
      _ = 2 ^ 52 * 2 ^ exponent := by rw [zpow_add₀ (by norm_num)]; norm_cast
  refine ⟨by omega, ?_, by omega, hbelow⟩
  have : (units : ℚ) < 2 ^ 52 + 1 := by linarith [hx.le]
  have : units < 2 ^ 52 + 1 := by exact_mod_cast this
  omega

end Target

section Round

variable {units m : Nat} {exponent e : Int} {x : ℚ}

/-- A mantissa is shifted to the exponent that it is rounded to. -/
theorem shiftToTargetExponent_eq {accuracy : Accuracy} {target : Int}
    (htarget : Format.binary64.targetExponent (totalExponent m e) = target) (he : e ≤ target)
    (htells : Tells (.ofMantissaAndAccuracy m accuracy) (x / 2 ^ e)) :
    ∃ em, UnpackedFloat.shiftToTargetExponent Format.binary64 m e accuracy = (em, target) ∧
      Tells em (x / 2 ^ target) := by
  have hsum : e + ((target - e).toNat : Int) = target := by omega
  refine ⟨ExtendedMantissa.ofMantissaAndAccuracy m accuracy >>> (target - e).toNat, ?_, ?_⟩
  · simp only [UnpackedFloat.shiftToTargetExponent, UnpackedFloat.shiftToExponent, htarget, hsum]
  · have hshift := htells.shiftRight (target - e).toNat
    rwa [div_div, ← zpow_natCast, ← zpow_add₀ (by norm_num), hsum] at hshift

theorem tells_exact (m : Nat) : Tells (.ofMantissaAndAccuracy m .exact) m := rfl

/-- What is already rounded stays. -/
theorem shiftToTargetExponent_of_lt (hm : m < 2 ^ 53) (he : -1074 ≤ e) :
    UnpackedFloat.shiftToTargetExponent Format.binary64 m e .exact = (⟨m, false, false⟩, e) := by
  have hlog : m.log2 ≤ 52 := by
    by_cases hzero : m = 0
    · simp [hzero]
    · exact Nat.lt_succ_iff.mp ((Nat.log2_lt hzero).mpr hm)
  have hnone : (Format.binary64.targetExponent (totalExponent m e) - e).toNat = 0 := by
    rw [targetExponent_eq]
    omega
  simp only [UnpackedFloat.shiftToTargetExponent, UnpackedFloat.shiftToExponent, hnone]
  simp only [Int.natCast_zero, add_zero]
  rfl

private theorem shiftToTargetExponent_two_pow (he : -1074 ≤ e) :
    UnpackedFloat.shiftToTargetExponent Format.binary64 (2 ^ 53) e .exact =
      (⟨2 ^ 52, false, false⟩, e + 1) := by
  have hone : (Format.binary64.targetExponent (totalExponent (2 ^ 53) e) - e).toNat = 1 := by
    rw [targetExponent_eq, Nat.log2_two_pow]
    omega
  simp only [UnpackedFloat.shiftToTargetExponent, UnpackedFloat.shiftToExponent, hone]
  rfl

/-- What is told of a number is rounded to the double of the number. -/
theorem roundWithAccuracy_eq {accuracy : Accuracy} (hd : IsDouble units exponent)
    (hx : Near units exponent x) (htells : Tells (.ofMantissaAndAccuracy m accuracy) (x / 2 ^ e))
    (he : e ≤ Format.binary64.targetExponent (totalExponent m e)) (sign : UnpackedFloat.Sign) :
    UnpackedFloat.roundWithAccuracy Format.binary64 sign m e accuracy =
      .finite sign units exponent hd.pos := by
  have hmantissa : (ExtendedMantissa.ofMantissaAndAccuracy m accuracy).mantissa = m := by
    cases accuracy with
    | exact => rfl
    | inexact order => cases order <;> rfl
  have hlow : m ≤ x / 2 ^ e := by simpa only [hmantissa] using htells.le
  have hhigh : x / 2 ^ e < m + 1 := by simpa only [hmantissa] using htells.lt
  rcases targetExponent_of_near hd hx hlow hhigh he with htarget | ⟨htarget, rfl, hleast, hbelow⟩
  · obtain ⟨em, hshift, htells⟩ := shiftToTargetExponent_eq htarget (htarget ▸ he) htells
    have hrounded : em.roundedMantissa = units := by
      refine htells.roundedMantissa_eq ?_ hx.below
      have hreach := @reach_le units exponent
      rcases hx.above with h | ⟨h, heven⟩
      · exact .inl (by linarith)
      · rcases hreach.lt_or_eq with hlt | heq
        · exact .inl (by linarith)
        · exact .inr ⟨by rw [← heq, h], heven⟩
    simp only [UnpackedFloat.roundWithAccuracy, hshift, hrounded,
      shiftToTargetExponent_of_lt hd.lt hd.low, hd.pos.ne', dite_false]
  · obtain ⟨em, hshift, htells⟩ := shiftToTargetExponent_eq htarget (htarget ▸ he) htells
    have hdouble : x / 2 ^ (exponent - 1) = 2 * (x / 2 ^ exponent) := by
      rw [zpow_sub_one₀ (by norm_num)]
      field_simp
    have hrounded : em.roundedMantissa = 2 ^ 53 := by
      refine htells.roundedMantissa_eq ?_ ?_
      · have hreach : reach (2 ^ 52) exponent = 1 / 4 := if_pos ⟨rfl, hleast⟩
        have habove := hx.above
        rw [hreach] at habove
        rw [hdouble]
        push_cast at habove ⊢
        rcases habove with h | ⟨h, -⟩
        · exact .inl (by linarith)
        · exact .inr ⟨by linarith, trivial⟩
      · rw [hdouble]
        push_cast
        exact .inl (by linarith)
    simp only [UnpackedFloat.roundWithAccuracy, hshift, hrounded,
      shiftToTargetExponent_two_pow (by omega : -1074 ≤ exponent - 1), sub_add_cancel]
    rfl

end Round

section Quotients

variable {units m₁ m₂ : Nat} {exponent e₁ e₂ : Int} {h₁ : 0 < m₁} {h₂ : 0 < m₂}

/-- The product of two doubles is rounded, provided that it has digits enough. -/
theorem mul_eq (hd : IsDouble units exponent)
    (hx : Near units exponent (m₁ * 2 ^ e₁ * (m₂ * 2 ^ e₂)))
    (hlarge : 2 ^ 52 ≤ m₁ * m₂) :
    UnpackedFloat.mul Format.binary64 (.finite .positive m₁ e₁ h₁) (.finite .positive m₂ e₂ h₂) =
      .finite .positive units exponent hd.pos := by
  have hvalue : ((m₁ * m₂ : Nat) : ℚ) = m₁ * 2 ^ e₁ * (m₂ * 2 ^ e₂) / 2 ^ (e₁ + e₂) := by
    rw [zpow_add₀ (by norm_num)]
    have := (two_zpow_pos e₁).ne'
    have := (two_zpow_pos e₂).ne'
    push_cast
    field_simp
  have htells := tells_exact (m₁ * m₂)
  rw [hvalue] at htells
  have hlog : 52 ≤ (m₁ * m₂).log2 := (Nat.le_log2 (by positivity)).mpr hlarge
  exact roundWithAccuracy_eq hd hx htells (by rw [targetExponent_eq]; omega) .positive

private theorem tells_fraction (m : Nat) {d : Nat} (hd : 0 < d) :
    Tells (.ofMantissaAndAccuracy (m / d) (UnpackedFloat.accuracyOfFraction (m % d) d))
      ((m : ℚ) / d) := by
  have hq : (0 : ℚ) < d := by exact_mod_cast hd
  have hm : (m : ℚ) = d * (m / d : Nat) + (m % d : Nat) := by
    exact_mod_cast (Nat.div_add_mod m d).symm
  have hvalue : (m : ℚ) / d = (m / d : Nat) + (m % d : Nat) / d := by
    rw [hm]
    field_simp
  have hrest : ((m % d : Nat) : ℚ) < d := by exact_mod_cast Nat.mod_lt m hd
  rw [hvalue]
  by_cases hsome : m % d = 0
  · rw [UnpackedFloat.accuracyOfFraction, if_pos hsome, hsome]
    simp [Tells, ExtendedMantissa.ofMantissaAndAccuracy]
  · rw [UnpackedFloat.accuracyOfFraction, if_neg hsome]
    have hpos : (0 : ℚ) < (m % d : Nat) := by exact_mod_cast Nat.pos_of_ne_zero hsome
    have hfraction : (0 : ℚ) < (m % d : Nat) / d := by positivity
    cases horder : compare (2 * (m % d)) d with
    | lt =>
      have hhalf : ((m % d : Nat) : ℚ) / d < 1 / 2 := by
        rw [div_lt_iff₀ hq]
        have : (2 * (m % d : Nat) : ℚ) < d := by exact_mod_cast Nat.compare_eq_lt.mp horder
        linarith
      simp only [Tells, ExtendedMantissa.ofMantissaAndAccuracy]
      exact ⟨by linarith, by linarith⟩
    | eq =>
      have hhalf : ((m % d : Nat) : ℚ) / d = 1 / 2 := by
        rw [div_eq_iff hq.ne']
        have : (2 * (m % d : Nat) : ℚ) = d := by exact_mod_cast Nat.compare_eq_eq.mp horder
        linarith
      exact congrArg _ hhalf
    | gt =>
      have hhalf : 1 / 2 < ((m % d : Nat) : ℚ) / d := by
        rw [lt_div_iff₀ hq]
        have : (d : ℚ) < 2 * (m % d : Nat) := by exact_mod_cast Nat.compare_eq_gt.mp horder
        linarith
      have hless : ((m % d : Nat) : ℚ) / d < 1 := by
        rw [div_lt_one hq]
        exact hrest
      simp only [Tells, ExtendedMantissa.ofMantissaAndAccuracy]
      exact ⟨by linarith, by linarith⟩

/-- A quotient has at least as many binary digits as its dividend has more than its divisor. -/
theorem log2_add_le (hm : m₁ ≠ 0) (hd : 0 < m₂) (shift : Nat) :
    m₁.log2 + shift ≤ ((m₁ <<< shift) / m₂).log2 + m₂.log2 + 1 := by
  have hlt : 2 ^ (m₁.log2 + shift) <
      2 ^ ((((m₁ <<< shift) / m₂).log2 + 1) + (m₂.log2 + 1)) :=
    calc
      2 ^ (m₁.log2 + shift) = 2 ^ m₁.log2 * 2 ^ shift := Nat.pow_add 2 _ _
      _ ≤ m₁ <<< shift := by
        rw [Nat.shiftLeft_eq]
        exact Nat.mul_le_mul_right _ (Nat.log2_self_le hm)
      _ < ((m₁ <<< shift) / m₂ + 1) * m₂ := Nat.lt_mul_of_div_lt (Nat.lt_succ_self _) hd
      _ ≤ 2 ^ (((m₁ <<< shift) / m₂).log2 + 1) * 2 ^ (m₂.log2 + 1) :=
        Nat.mul_le_mul Nat.lt_log2_self Nat.lt_log2_self.le
      _ = 2 ^ ((((m₁ <<< shift) / m₂).log2 + 1) + (m₂.log2 + 1)) := (Nat.pow_add 2 _ _).symm
  have := (Nat.pow_lt_pow_iff_right (by decide)).mp hlt
  omega

/-- The quotient of two doubles is rounded. -/
theorem div_eq (hd : IsDouble units exponent)
    (hx : Near units exponent (m₁ * 2 ^ e₁ / (m₂ * 2 ^ e₂))) :
    UnpackedFloat.div Format.binary64 (.finite .positive m₁ e₁ h₁) (.finite .positive m₂ e₂ h₂) =
      .finite .positive units exponent hd.pos := by
  -- The exponent of the quotient, small enough for the dividend to be shifted to the left.
  let e := min (e₁ - e₂)
    (Format.binary64.targetExponent (totalExponent m₁ e₁ - totalExponent m₂ e₂))
  let shift := (e₁ - e₂ - e).toNat
  have hshift : (shift : Int) = e₁ - e₂ - e := Int.toNat_of_nonneg (by omega)
  have hdividend : m₁ <<< shift = m₁ * 2 ^ shift := Nat.shiftLeft_eq m₁ shift
  have hvalue : ((m₁ <<< shift : Nat) : ℚ) / m₂ = m₁ * 2 ^ e₁ / (m₂ * 2 ^ e₂) / 2 ^ e := by
    have hpow : (2 : ℚ) ^ shift = 2 ^ e₁ / (2 ^ e₂ * 2 ^ e) := by
      rw [← zpow_natCast, hshift, sub_sub, zpow_sub₀ (by norm_num), zpow_add₀ (by norm_num)]
    rw [hdividend]
    push_cast
    rw [hpow]
    field_simp
  have htells := tells_fraction (m₁ <<< shift) h₂
  rw [hvalue] at htells
  refine roundWithAccuracy_eq hd hx htells ?_ .positive
  have hdigits := log2_add_le h₁.ne' h₂ shift
  have he : e ≤ Format.binary64.targetExponent (totalExponent m₁ e₁ - totalExponent m₂ e₂) :=
    min_le_right _ _
  simp only [Format.targetExponent, totalExponent, Format.mantissaBits, Format.minExponent] at he ⊢
  omega

end Quotients

end CodeTwins.Decimal
