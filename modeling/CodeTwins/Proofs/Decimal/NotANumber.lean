import CodeTwins.Proofs.Decimal.Nearest

/-!
# What is no number

Rounding never leaves the value that is no number, so a decimal number is never read as it. It is the
only double that is neither positive nor at most zero.
-/
namespace CodeTwins.Decimal

open Float.Model
open Float.Model.UnpackedFloat (Sign Accuracy)

section Unpacked

variable {s₁ s₂ : Sign} {m₁ m₂ : Nat} {e₁ e₂ : Int} {h₁ : 0 < m₁} {h₂ : 0 < m₂}

private theorem isNaN_unpack_packComponents {sign : Sign} {e : BitVec 11} {m : BitVec 52}
    (h : e ≠ -1#11 ∨ m = 0#52) :
    (UnpackedFloat.unpack Format.binary64
      (UnpackedFloat.packComponents Format.binary64 sign e m)).isNaN = false := by
  simp only [UnpackedFloat.unpack, UnpackedFloat.unpackMantissa_packComponents,
    UnpackedFloat.unpackExponent_packComponents]
  split
  case isTrue hexponent =>
    rw [if_pos (h.resolve_left (not_not.mpr hexponent))]
    rfl
  case isFalse =>
    split
    case isTrue => split <;> rfl
    case isFalse => rfl

/-- What is packed is no number only if it was none. -/
theorem isNaN_unpack_pack (a : UnpackedFloat) :
    (UnpackedFloat.unpack Format.binary64 (UnpackedFloat.pack Format.binary64 a)).isNaN = a.isNaN := by
  fun_cases UnpackedFloat.pack Format.binary64 a with
  | case1 => rfl
  | case2 | case3 | case4 => exact isNaN_unpack_packComponents (.inr rfl)
  | case5 sign m e hm bits biased hfits hnormal =>
    refine isNaN_unpack_packComponents (.inl fun heq => ?_)
    have hbiased : (BitVec.ofNat 11 biased).toNat = 2047 := congrArg BitVec.toNat heq
    have hsmall : ¬ 2 ^ 11 ≤ biased + 1 := hfits
    rw [BitVec.toNat_ofNat] at hbiased
    omega
  | case6 => exact isNaN_unpack_packComponents (.inl (by decide))

private theorem isNaN_roundWithAccuracy (sign : Sign) (m : Nat) (e : Int) (accuracy : Accuracy) :
    (UnpackedFloat.roundWithAccuracy Format.binary64 sign m e accuracy).isNaN = false := by
  simp only [UnpackedFloat.roundWithAccuracy]
  split <;> rfl

private theorem isNaN_mul_finite : (UnpackedFloat.mul Format.binary64 (.finite s₁ m₁ e₁ h₁)
    (.finite s₂ m₂ e₂ h₂)).isNaN = false :=
  isNaN_roundWithAccuracy _ _ _ _

private theorem isNaN_div_finite : (UnpackedFloat.div Format.binary64 (.finite s₁ m₁ e₁ h₁)
    (.finite s₂ m₂ e₂ h₂)).isNaN = false :=
  isNaN_roundWithAccuracy _ _ _ _

private theorem isNaN_neg (a : UnpackedFloat) : a.neg.isNaN = a.isNaN := by
  cases a <;> rfl

private theorem isNaN_ofScientific (m : Nat) (e : Int) :
    (UnpackedFloat.ofScientific Format.binary64 m e).isNaN = false := by
  simp only [UnpackedFloat.ofScientific]
  split_ifs
  · rfl
  · rfl
  · rfl
  · exact isNaN_mul_finite
  · exact isNaN_div_finite

private theorem zero_lt_iff {a : UnpackedFloat} : UnpackedFloat.lt (.zero .positive) a = true ↔
    a.le (.zero .positive) = false ∧ a.isNaN = false := by
  rcases a with ⟨_ | _⟩ | _ | _ | ⟨_ | _⟩ <;>
    simp [UnpackedFloat.lt, UnpackedFloat.le, UnpackedFloat.compare, UnpackedFloat.isNaN]

end Unpacked

section Doubles

variable {x : Float}

private theorem isNaN_ofModel (a : UnpackedFloat) : (Float.ofModel (.pack a)).isNaN = a.isNaN :=
  isNaN_unpack_pack a

/-- What is not at most zero is positive, unless it is no number. -/
theorem pos_iff_not_le : 0 < x ↔ ¬ x ≤ 0 ∧ x.isNaN = false := by
  have hlt : 0 < x ↔ UnpackedFloat.lt (.zero .positive) x.toModel.unpack = true :=
    decide_eq_true_iff
  have hle : x ≤ 0 ↔ x.toModel.unpack.le (.zero .positive) = true := decide_eq_true_iff
  rw [hlt, hle, Bool.not_eq_true]
  exact zero_lt_iff

private theorem isNaN_float_ofScientific {c : Nat} (hc : 0 < c) (negative : Bool) (e : Nat) :
    (Float.ofScientific c negative e).isNaN = false := by
  unfold Float.ofScientific
  split
  case isTrue h =>
    obtain ⟨m₁, e₁, h₁, hn, -⟩ := unpack_toFloat hc h.1
    have hsize : e < Float.exactlyRepresentablePowersOfTen.size := Nat.lt_succ_of_le h.2
    obtain ⟨m₂, e₂, h₂, hpower, -⟩ := unpack_exactlyRepresentablePowersOfTen hsize
    cases negative with
    | true =>
      change (Float.ofModel (.pack (UnpackedFloat.div _ _ _))).isNaN = false
      rw [hn, hpower, isNaN_ofModel]
      exact isNaN_div_finite
    | false =>
      change (Float.ofModel (.pack (UnpackedFloat.mul _ _ _))).isNaN = false
      rw [hn, hpower, isNaN_ofModel]
      exact isNaN_mul_finite
  case isFalse => exact (isNaN_ofModel _).trans (isNaN_ofScientific _ _)

theorem isNaN_infinity (negative : Bool) : (infinity negative).isNaN = false := by
  cases negative <;> decide +kernel

/-- A decimal number is never read as no number. -/
theorem isNaN_nearest (negative : Bool) (c : Nat) (e : Int) :
    (nearest negative c e).isNaN = false := by
  have hpositive : (nearest false c e).isNaN = false := by
    simp only [nearest, Bool.false_eq_true, if_false]
    split
    case isTrue => decide +kernel
    case isFalse hsome =>
      have hc : 0 < c := by
        simp only [Bool.or_eq_true, decide_eq_true_eq, not_or] at hsome
        exact Nat.pos_of_ne_zero hsome.1
      split_ifs
      · exact isNaN_infinity false
      · exact isNaN_float_ofScientific (Nat.mul_pos hc (Nat.pow_pos (by decide))) false 0
      · exact isNaN_float_ofScientific hc true _
  cases negative with
  | false => exact hpositive
  | true =>
    change (Float.ofModel (.pack (nearest false c e).toModel.unpack.neg)).isNaN = false
    rw [isNaN_ofModel, isNaN_neg]
    exact hpositive

theorem isNaN_notANumber : notANumber.isNaN = true := by
  decide +kernel

end Doubles

end CodeTwins.Decimal
