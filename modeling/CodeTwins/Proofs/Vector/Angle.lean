import CodeTwins.Proofs.Vector.Similarities
import Mathlib.Analysis.InnerProductSpace.PiL2
import Mathlib.Geometry.Euclidean.Angle.Unoriented.Basic

/-!
# The cosine of an angle

Exact numbers are the coordinates of a point in Euclidean space, whose inner product and norm are those
that are computed. So the cosine of two vectors is that of the angle between two points, and what is known
of angles holds of it.
-/
namespace CodeTwins.Vec

open InnerProductGeometry

section Points

variable {n : Nat}

/-- The coordinates of a point. -/
def ofPoint (x : EuclideanSpace ℝ (Fin n)) : Vec ℝ :=
  List.ofFn x.ofLp

@[simp] theorem length_ofPoint (x : EuclideanSpace ℝ (Fin n)) : (ofPoint x).length = n :=
  List.length_ofFn

private theorem exists_point {v : Vec ℝ} (h : v.length = n) :
    ∃ x : EuclideanSpace ℝ (Fin n), v = ofPoint x := by
  subst h
  exact ⟨.toLp 2 v.get, (List.ofFn_get v).symm⟩

/-- Two vectors of one length are points of one space. -/
theorem exists_points {v w : Vec ℝ} (h : v.length = w.length) :
    ∃ n, ∃ x y : EuclideanSpace ℝ (Fin n), v = ofPoint x ∧ w = ofPoint y := by
  obtain ⟨x, hx⟩ := exists_point h
  obtain ⟨y, hy⟩ := exists_point (rfl : w.length = w.length)
  exact ⟨w.length, x, y, hx, hy⟩

private theorem ofPoint_injective : Function.Injective (@ofPoint n) := by
  intro x y h
  exact WithLp.ofLp_injective 2 (List.ofFn_injective h)

private theorem ofPoint_smul (c : ℝ) (x : EuclideanSpace ℝ (Fin n)) :
    ofPoint (c • x) = (ofPoint x).map (c * ·) := by
  rw [ofPoint, ofPoint, List.map_ofFn]
  rfl

private theorem dot_ofPoint (x y : EuclideanSpace ℝ (Fin n)) :
    dot (ofPoint x) (ofPoint y) = inner ℝ x y := by
  have hproducts : List.zipWith (· * ·) (ofPoint x) (ofPoint y) =
      List.ofFn fun i => x.ofLp i * y.ofLp i := by
    apply List.ext_getElem
    · simp
    · intro i hi hi'
      simp [ofPoint]
  rw [dot_eq_sum, hproducts, List.sum_ofFn, PiLp.inner_apply]
  simp [mul_comm]

private theorem norm_ofPoint (x : EuclideanSpace ℝ (Fin n)) : norm (ofPoint x) = ‖x‖ := by
  rw [norm_eq_sqrt_real_inner, ← dot_ofPoint]
  rfl

private theorem quotient_ofPoint (x y : EuclideanSpace ℝ (Fin n)) :
    dot (ofPoint x) (ofPoint y) / (norm (ofPoint x) * norm (ofPoint y)) = Real.cos (angle x y) := by
  rw [dot_ofPoint, norm_ofPoint, norm_ofPoint, cos_angle]

/-- The cosine of two vectors is that of the angle between them. -/
theorem cosine_ofPoint (x y : EuclideanSpace ℝ (Fin n)) :
    cosine (ofPoint x) (ofPoint y) = Real.cos (angle x y) := by
  have hlength : (ofPoint x).length = (ofPoint y).length := by simp
  rw [cosine_eq hlength, quotient_ofPoint, clamp_of_bounds (Real.neg_one_le_cos _) (Real.cos_le_one _)]
  split
  case isTrue hzero =>
    rw [cos_angle, ← norm_ofPoint x, ← norm_ofPoint y]
    rcases hzero with h | h <;> simp [h]
  case isFalse => rfl

end Points

section Laws

variable {v w : Vec ℝ}

private theorem norm_eq_zero_iff : norm v = 0 ↔ ∀ x ∈ v, x = 0 := by
  refine ⟨eq_zero_of_norm, fun h => ?_⟩
  have hdot : dot v v = 0 := by
    rw [dot_eq_sum, List.zipWith_self]
    exact List.sum_eq_zero (by simpa using h)
  rw [norm, hdot]
  exact Real.sqrt_zero

/-- Before it is kept within the bounds, the cosine is within them already. -/
theorem quotient_bounds (h : v.length = w.length) :
    -1 ≤ dot v w / (norm v * norm w) ∧ dot v w / (norm v * norm w) ≤ 1 := by
  obtain ⟨n, x, y, rfl, rfl⟩ := exists_points h
  rw [quotient_ofPoint]
  exact ⟨Real.neg_one_le_cos _, Real.cos_le_one _⟩

private theorem cosine_bounds (v w : Vec ℝ) : -1 ≤ cosine v w ∧ cosine v w ≤ 1 := by
  by_cases h : v.length = w.length
  · obtain ⟨n, x, y, rfl, rfl⟩ := exists_points h
    rw [cosine_ofPoint]
    exact ⟨Real.neg_one_le_cos _, Real.cos_le_one _⟩
  · rw [cosine_of_length_ne h]
    norm_num

private theorem cosine_map_of_pos {c : ℝ} (hc : 0 < c) (v w : Vec ℝ) :
    cosine (v.map (c * ·)) w = cosine v w := by
  by_cases h : v.length = w.length
  · obtain ⟨n, x, y, rfl, rfl⟩ := exists_points h
    rw [← ofPoint_smul, cosine_ofPoint, cosine_ofPoint, angle_smul_left_of_pos x y hc]
  · rw [cosine_of_length_ne h, cosine_of_length_ne (by rwa [List.length_map])]

private theorem cosine_map_of_neg {c : ℝ} (hc : c < 0) (v w : Vec ℝ) :
    cosine (v.map (c * ·)) w = -cosine v w := by
  by_cases h : v.length = w.length
  · obtain ⟨n, x, y, rfl, rfl⟩ := exists_points h
    rw [← ofPoint_smul, cosine_ofPoint, cosine_ofPoint, angle_smul_left_of_neg x y hc, angle_neg_left,
      Real.cos_pi_sub]
  · rw [cosine_of_length_ne h, cosine_of_length_ne (by rwa [List.length_map]), neg_zero]

/-- Only vectors of the same direction have cosine one. -/
theorem cosine_eq_one_iff (h : v.length = w.length) :
    cosine v w = 1 ↔ norm v ≠ 0 ∧ ∃ c : ℝ, 0 < c ∧ w = v.map (c * ·) := by
  obtain ⟨n, x, y, rfl, rfl⟩ := exists_points h
  rw [cosine_ofPoint, cos_eq_one_iff_angle_eq_zero, angle_eq_zero_iff, norm_ofPoint, norm_ne_zero_iff]
  refine and_congr_right fun _ => exists_congr fun c => and_congr_right fun _ => ?_
  rw [← ofPoint_smul]
  exact ofPoint_injective.eq_iff.symm

private theorem cosine_self (h : norm v ≠ 0) : cosine v v = 1 := by
  have hone : v = v.map (1 * ·) := by simp
  exact (cosine_eq_one_iff rfl).mpr ⟨h, 1, one_pos, hone⟩

private theorem norm_eq_sqrt (v : Vec ℝ) : norm v = √(v.map (· ^ 2)).sum := by
  have hself : dot v v = (v.map (· ^ 2)).sum := by
    rw [dot_eq_sum, List.zipWith_self]
    simp only [sq]
  rw [← hself]
  rfl

/-- The laws of cosines, for exact numbers. The quotient is within the bounds before it is kept within
them. The order of the vectors is of no account, and neither are their magnitudes; the sign changes if
one of them is turned round. The cosine is zero if the lengths differ or a vector has no magnitude. Else
it is one exactly if the vectors have one direction, as a vector has with itself. -/
theorem cosine_laws (v w : Vec ℝ) :
    (norm v = 0 ↔ ∀ x ∈ v, x = 0) ∧
    (-1 ≤ cosine v w ∧ cosine v w ≤ 1) ∧
    (v.length = w.length → clamp (dot v w / (norm v * norm w)) = dot v w / (norm v * norm w)) ∧
    (v.length = w.length → norm v ≠ 0 → norm w ≠ 0 → cosine v w =
      (List.zipWith (· * ·) v w).sum / (√(v.map (· ^ 2)).sum * √(w.map (· ^ 2)).sum)) ∧
    cosine v w = cosine w v ∧
    (∀ c : ℝ, 0 < c →
      cosine (v.map (c * ·)) w = cosine v w ∧ cosine v (w.map (c * ·)) = cosine v w) ∧
    (∀ c : ℝ, c < 0 →
      cosine (v.map (c * ·)) w = -cosine v w ∧ cosine v (w.map (c * ·)) = -cosine v w) ∧
    (norm v ≠ 0 → cosine v v = 1) ∧
    (v.length ≠ w.length ∨ norm v = 0 ∨ norm w = 0 → cosine v w = 0) ∧
    (v.length = w.length → norm v ≠ 0 → norm w ≠ 0 →
      (cosine v w = 1 ↔ ∃ c : ℝ, 0 < c ∧ w = v.map (c * ·))) := by
  have hclamp : v.length = w.length →
      clamp (dot v w / (norm v * norm w)) = dot v w / (norm v * norm w) := by
    intro h
    obtain ⟨hlow, hhigh⟩ := quotient_bounds h
    exact clamp_of_bounds hlow hhigh
  refine ⟨norm_eq_zero_iff, cosine_bounds v w, hclamp, ?_, cosine_comm v w, ?_, ?_, cosine_self, ?_, ?_⟩
  · intro h hv hw
    rw [cosine_eq h, if_neg (not_or.mpr ⟨hv, hw⟩), hclamp h, dot_eq_sum, norm_eq_sqrt, norm_eq_sqrt]
  · intro c hc
    refine ⟨cosine_map_of_pos hc v w, ?_⟩
    rw [cosine_comm, cosine_map_of_pos hc, cosine_comm]
  · intro c hc
    refine ⟨cosine_map_of_neg hc v w, ?_⟩
    rw [cosine_comm, cosine_map_of_neg hc, cosine_comm]
  · intro h
    by_cases hlength : v.length = w.length
    · rw [cosine_eq hlength, if_pos (h.resolve_left (not_not.mpr hlength))]
    · exact cosine_of_length_ne hlength
  · intro h hv hw
    rw [cosine_eq_one_iff h]
    exact and_iff_right hv

/-- Two vectors of one direction and one that is shorter. -/
theorem cosine_laws_same_direction :
    let v : Vec ℝ := [3, 4]
    let w : Vec ℝ := [6, 8]
    v.length = w.length ∧ norm v ≠ 0 ∧ norm w ≠ 0 ∧
      clamp (dot v w / (norm v * norm w)) = dot v w / (norm v * norm w) ∧
      cosine v v = 1 ∧ cosine v w = 1 ∧
      (0 : ℝ) < 2 ∧ cosine (v.map (2 * ·)) w = cosine v w ∧
      (-1 : ℝ) < 0 ∧ cosine v (w.map (-1 * ·)) = -cosine v w ∧
      v.length ≠ [(3 : ℝ)].length ∧ cosine v [3] = 0 := by
  intro v w
  have hlength : v.length = w.length := rfl
  have hshort : v.length ≠ [(3 : ℝ)].length := by simp [v]
  obtain ⟨hzero, -, hclamp, -, -, hpos, hneg, hself, -, hone⟩ := cosine_laws v w
  obtain ⟨hzero', -⟩ := cosine_laws w v
  obtain ⟨-, -, -, -, -, -, -, -, hnone, -⟩ := cosine_laws v [3]
  have hv : norm v ≠ 0 := hzero.not.mpr (by simp [v])
  have hw : norm w ≠ 0 := hzero'.not.mpr (by simp [w])
  have hdouble : w = v.map (2 * ·) := by
    simp only [v, w, List.map_cons, List.map_nil]
    norm_num
  exact ⟨hlength, hv, hw, hclamp hlength, hself hv,
    (hone hlength hv hw).mpr ⟨2, two_pos, hdouble⟩, two_pos, (hpos 2 two_pos).1, by norm_num,
    (hneg (-1) (by norm_num)).2, hshort, hnone (.inl hshort)⟩

end Laws

end CodeTwins.Vec
