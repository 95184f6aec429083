import CodeTwins.Proofs.Similarity.Closest
import Mathlib

/-!
# Vectors without a cosine

What is not finite stays so in sums, products and roots, and to divide one such double by another
gives no number. So two vectors of one length have no cosine if one of them is not finite. What is
no number is not below the largest cosine, and becomes that when it is kept within the bounds.
-/
namespace CodeTwins

section Unpacked

open Float.Model (UnpackedFloat)
open Float.Model.UnpackedFloat

variable {a b : UnpackedFloat}

/-- What is not finite is kept as it is. -/
theorem unpack_pack_of_not_finite (h : a.isFinite = false) : (Float.Model.pack a).unpack = a := by
  cases a with
  | infinity sign => cases sign <;> rfl
  | notANumber => rfl
  | zero sign => cases h
  | finite sign m e hpos => cases h

private theorem add_of_not_finite (h : a.isFinite = false ∨ b.isFinite = false) :
    (add .binary64 a b).isFinite = false := by
  cases a <;> cases b
  case infinity.infinity =>
    rw [add]
    split <;> rfl
  all_goals simp_all [add, isFinite]

private theorem mul_of_not_finite (h : a.isFinite = false ∨ b.isFinite = false) :
    (mul .binary64 a b).isFinite = false := by
  cases a <;> cases b <;> simp_all [mul, isFinite]

private theorem sqrt_of_not_finite (h : a.isFinite = false) :
    (sqrt .binary64 a).isFinite = false := by
  rcases a with ⟨_ | _⟩ | _ | _ | _ <;> simp_all [sqrt, isFinite]

private theorem div_of_not_finite (ha : a.isFinite = false) (hb : b.isFinite = false) :
    div .binary64 a b = .notANumber := by
  cases a <;> cases b <;> simp_all [div, isFinite]

private theorem beq_zero_of_not_finite (h : a.isFinite = false) :
    a.beq (.zero .positive) = false := by
  rcases a with ⟨_ | _⟩ | _ | _ | _ <;> first | rfl | cases h

private theorem lt_of_notANumber (h : a.isNaN = true) : a.lt b = false := by
  cases a <;> first | rfl | cases h

private theorem isFinite_eq_false_iff :
    a.isFinite = false ↔ ¬ (a.isNaN = false ∧ a.isInf = false) := by
  cases a <;> simp [isFinite, isNaN, isInf]

end Unpacked

section Doubles

variable {x y : Float}

private theorem isFinite_ofModel {a : Float.Model.UnpackedFloat} (h : a.isFinite = false) :
    (Float.ofModel (.pack a)).isFinite = false :=
  (congrArg _ (unpack_pack_of_not_finite h)).trans h

private theorem isFinite_add (h : x.isFinite = false ∨ y.isFinite = false) :
    (x + y).isFinite = false :=
  isFinite_ofModel (add_of_not_finite h)

private theorem isFinite_mul (h : x.isFinite = false ∨ y.isFinite = false) :
    (x * y).isFinite = false :=
  isFinite_ofModel (mul_of_not_finite h)

private theorem isFinite_sqrt (h : x.isFinite = false) : x.sqrt.isFinite = false :=
  isFinite_ofModel (sqrt_of_not_finite h)

/-- What is not finite can not be divided by what is not finite. -/
theorem isNaN_div (hx : x.isFinite = false) (hy : y.isFinite = false) : (x / y).isNaN = true := by
  have hquotient := div_of_not_finite hx hy
  change (Float.Model.pack (.div .binary64 x.toModel.unpack y.toModel.unpack)).unpack.isNaN = true
  rw [hquotient]
  rfl

private theorem isZero_of_not_finite (h : x.isFinite = false) : Scalar.isZero x = false :=
  beq_zero_of_not_finite h

/-- What is no number is not below any. -/
theorem lt_of_isNaN (h : x.isNaN = true) (y : Float) : Scalar.lt x y = false := by
  have hlt : x.toModel.unpack.lt y.toModel.unpack = false := lt_of_notANumber h
  change decide (decide (x.toModel.unpack.lt y.toModel.unpack = true) = true) = false
  rw [hlt]
  rfl

end Doubles

namespace Vec

variable {v w : Vec Float}

private theorem not_isFinite_iff : ¬ v.IsFinite ↔ ∃ x ∈ v, x.isFinite = false := by
  have hiff : ∀ x : Float, x.isFinite = false ↔ ¬ (x.isNaN = false ∧ x.isInf = false) :=
    fun x => isFinite_eq_false_iff
  simp only [IsFinite, hiff, not_forall, exists_prop]

private theorem isFinite_foldl {x : Float} (h : x.isFinite = false ∨ ∃ y ∈ v, y.isFinite = false) :
    (v.foldl Scalar.add x).isFinite = false := by
  induction v generalizing x with
  | nil => simpa using h
  | cons y v ih =>
    rw [List.foldl_cons]
    apply ih
    rcases h with hx | ⟨z, hz, hfinite⟩
    · exact .inl (isFinite_add (.inl hx))
    · rcases List.mem_cons.mp hz with rfl | hz
      · exact .inl (isFinite_add (.inr hfinite))
      · exact .inr ⟨z, hz, hfinite⟩

private theorem isFinite_dot (hlength : v.length = w.length) (h : ¬ v.IsFinite ∨ ¬ w.IsFinite) :
    (dot v w).isFinite = false := by
  apply isFinite_foldl
  right
  have hplace : ∃ i, ∃ hv : i < v.length, ∃ hw : i < w.length,
      v[i].isFinite = false ∨ w[i].isFinite = false := by
    rw [not_isFinite_iff, not_isFinite_iff] at h
    rcases h with ⟨x, hx, hfinite⟩ | ⟨x, hx, hfinite⟩
    · obtain ⟨i, hi, rfl⟩ := List.getElem_of_mem hx
      exact ⟨i, hi, hlength ▸ hi, .inl hfinite⟩
    · obtain ⟨i, hi, rfl⟩ := List.getElem_of_mem hx
      exact ⟨i, hlength ▸ hi, hi, .inr hfinite⟩
  obtain ⟨i, hv, hw, hfinite⟩ := hplace
  have hi : i < (List.zipWith Scalar.mul v w).length := by
    rw [List.length_zipWith]
    exact Nat.lt_min.mpr ⟨hv, hw⟩
  refine ⟨_, List.getElem_mem hi, ?_⟩
  rw [List.getElem_zipWith]
  exact isFinite_mul hfinite

private theorem isFinite_norm (h : ¬ v.IsFinite) : (norm v).isFinite = false :=
  isFinite_sqrt (isFinite_dot rfl (.inl h))

/-- What is no number is kept within the bounds as the upper one. -/
theorem clamp_of_isNaN {x : Float} (h : x.isNaN = true) : clamp x = 1 := by
  have hupper : Scalar.lt x Scalar.one = false := lt_of_isNaN h _
  have hlower : Scalar.lt Scalar.minusOne (Scalar.one : Float) = true := by decide +kernel
  simp only [clamp, hupper, Bool.false_eq_true, if_false, hlower, if_true]
  rfl

/-- What the cosine is before it is kept within its bounds. -/
def quotient (v w : Vec Float) : Float :=
  Scalar.div (dot v w) (Scalar.mul (norm v) (norm w))

/-- Two vectors of one length have no cosine: the quotient that it would be is not a number. -/
structure IsUndefined (v w : Vec Float) : Prop where
  length : v.length = w.length
  quotient : (quotient v w).isNaN = true

/-- The magnitude is not zero. It may be infinite, or no number. -/
def HasMagnitude (v : Vec Float) : Prop :=
  Scalar.isZero (norm v) = false

instance (v : Vec Float) : Decidable v.HasMagnitude :=
  inferInstanceAs (Decidable (Scalar.isZero (norm v) = false))

/-- One number that is not finite, in either vector, is enough. -/
theorem isUndefined_of_not_isFinite (hlength : v.length = w.length)
    (h : ¬ v.IsFinite ∨ ¬ w.IsFinite) : IsUndefined v w where
  length := hlength
  quotient := isNaN_div (isFinite_dot hlength h) (isFinite_mul (h.imp isFinite_norm isFinite_norm))

theorem hasMagnitude_of_not_isFinite (h : ¬ v.IsFinite) : HasMagnitude v :=
  isZero_of_not_finite (isFinite_norm h)

/-- A cosine that is not defined becomes the largest there is, unless a magnitude is zero. -/
theorem cosine_of_isUndefined (h : IsUndefined v w) :
    cosine v w = if HasMagnitude v ∧ HasMagnitude w then 1 else 0 := by
  have hclamp : clamp (Scalar.div (dot v w) (Scalar.mul (norm v) (norm w))) = 1 :=
    clamp_of_isNaN h.quotient
  have hnot : (Scalar.isZero (norm v) || Scalar.isZero (norm w)) = true ↔
      ¬ (HasMagnitude v ∧ HasMagnitude w) := by
    rw [Bool.or_eq_true, not_and_or, HasMagnitude, HasMagnitude, Bool.not_eq_false, Bool.not_eq_false]
  rw [cosine, if_neg (not_not.mpr h.length), hclamp]
  by_cases hboth : HasMagnitude v ∧ HasMagnitude w
  · rw [if_pos hboth, if_neg (hnot.not.mpr (not_not.mpr hboth))]
  · rw [if_neg hboth, if_pos (hnot.mpr hboth)]
    rfl

end Vec

end CodeTwins
