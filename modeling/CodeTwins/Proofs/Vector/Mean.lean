import CodeTwins.Proofs.Vector.Exact
import CodeTwins.Vector.Mean
import Mathlib.Algebra.BigOperators.Group.List.Basic

/-!
# Components of a mean

Vectors have a mean if they are of one length, which is then that of the mean. A component of the mean is
the sum of the components of all vectors at its place, divided by their number. Exact numbers may be
added in any order.
-/
namespace CodeTwins.Vec

section Lengths

variable {α : Type} {vs : List (Vec α)}

private theorem mem_dimensions {n : Nat} : n ∈ dimensions vs ↔ ∃ v ∈ vs, v.length = n := by
  rw [dimensions, List.mem_mergeSort, List.mem_eraseDups, List.mem_map]

theorem length_dimensions_le_one_iff :
    (dimensions vs).length ≤ 1 ↔ ∃ d, ∀ v ∈ vs, v.length = d := by
  constructor
  · intro h
    have hmem : ∀ v ∈ vs, v.length ∈ dimensions vs := fun v hv => mem_dimensions.mpr ⟨v, hv, rfl⟩
    match hlengths : dimensions vs with
    | [] => exact ⟨0, fun v hv => absurd (hmem v hv) (by simp [hlengths])⟩
    | [d] => exact ⟨d, fun v hv => by simpa [hlengths] using hmem v hv⟩
    | _ :: _ :: _ => simp [hlengths] at h
  · rintro ⟨d, hd⟩
    rw [dimensions, List.length_mergeSort]
    cases vs with
    | nil => simp
    | cons v vs =>
      have hrest : (vs.map List.length).filter (fun n => !n == v.length) = [] := by
        simp_all
      rw [List.map_cons, List.eraseDups_cons, hrest]
      simp

end Lengths

section Columns

variable {α : Type} [Scalar α] {vs : List (Vec α)} {d i : Nat}

private theorem length_foldl_add (hvs : ∀ v ∈ vs, v.length = d) {total : Vec α}
    (htotal : total.length = d) : (vs.foldl (List.zipWith Scalar.add) total).length = d := by
  induction vs generalizing total with
  | nil => exact htotal
  | cons v vs ih =>
    obtain ⟨hv, hvs⟩ := List.forall_mem_cons.mp hvs
    refine ih hvs ?_
    rw [List.length_zipWith, htotal, hv, Nat.min_self]

theorem length_mean (hvs : ∀ v ∈ vs, v.length = d) (hsome : vs ≠ []) :
    (mean vs).length = d := by
  cases vs with
  | nil => exact absurd rfl hsome
  | cons v vs =>
    have hv : v.length = d := hvs v (.head _)
    rw [mean, List.length_map]
    exact length_foldl_add hvs (by rw [List.length_map, hv])

/-- The components of vectors at a place, from the first vector to the last. -/
def column {α : Type} (vs : List (Vec α)) (i : Nat) : List α :=
  vs.filterMap (·[i]?)

private theorem getElem?_foldl_add (hvs : ∀ v ∈ vs, i < v.length) {total : Vec α}
    (hi : i < total.length) : (vs.foldl (List.zipWith Scalar.add) total)[i]? =
      some ((column vs i).foldl Scalar.add total[i]) := by
  induction vs generalizing total with
  | nil => exact List.getElem?_eq_getElem hi
  | cons v vs ih =>
    obtain ⟨hv, hvs⟩ := List.forall_mem_cons.mp hvs
    have hsum : i < (List.zipWith Scalar.add total v).length := by
      rw [List.length_zipWith]
      exact Nat.lt_min.mpr ⟨hi, hv⟩
    have hcolumn : column (v :: vs) i = v[i] :: column vs i :=
      List.filterMap_cons_some (List.getElem?_eq_getElem hv)
    rw [List.foldl_cons, ih hvs hsum, List.getElem_zipWith, hcolumn, List.foldl_cons]

private theorem getElem?_mean (hsome : vs ≠ []) (hvs : ∀ v ∈ vs, v.length = d) (hi : i < d) :
    (mean vs)[i]? = some (Scalar.div ((column vs i).foldl Scalar.add Scalar.zero)
      (Scalar.ofNat vs.length)) := by
  cases vs with
  | nil => exact absurd rfl hsome
  | cons v vs =>
    have hzeros : i < (v.map fun _ => (Scalar.zero : α)).length := by
      rw [List.length_map, hvs v (.head _)]
      exact hi
    have htotal := getElem?_foldl_add (fun w hw => (hvs w hw).symm ▸ hi) hzeros
    rw [List.getElem_map] at htotal
    rw [mean, List.getElem?_map, htotal]
    rfl

end Columns

section Exact

variable {vs : List (Vec ℝ)} {v : Vec ℝ}

/-- The vector is the mean of the others, number by number, and one vector is its own mean. -/
structure IsMeanOf (vs : List (Vec ℝ)) (v : Vec ℝ) : Prop where
  length_eq : ∀ w ∈ vs, w.length = v.length
  single : ∀ w, vs = [w] → v = w
  component : ∀ i < v.length, v[i]? = some ((column vs i).sum / vs.length)

theorem getElem?_mean_exact {d i : Nat} (hsome : vs ≠ []) (hvs : ∀ w ∈ vs, w.length = d)
    (hi : i < d) : (mean vs)[i]? = some ((column vs i).sum / vs.length) := by
  rw [getElem?_mean hsome hvs hi, List.sum_eq_foldl]
  rfl

theorem IsMeanOf.eq {w : Vec ℝ} (hsome : vs ≠ []) (hv : IsMeanOf vs v) (hw : IsMeanOf vs w) :
    v = w := by
  obtain ⟨u, us, rfl⟩ := List.exists_cons_of_ne_nil hsome
  have hlength : v.length = w.length :=
    (hv.length_eq u (.head _)).symm.trans (hw.length_eq u (.head _))
  refine List.ext_getElem? fun i => ?_
  by_cases hi : i < v.length
  · rw [hv.component i hi, hw.component i (hlength ▸ hi)]
  · rw [List.getElem?_eq_none (Nat.not_lt.mp hi),
      List.getElem?_eq_none (hlength ▸ Nat.not_lt.mp hi)]

theorem isMeanOf_single (v : Vec ℝ) : IsMeanOf [v] v where
  length_eq := by simp
  single := by simp
  component i hi := by simp [column, hi]

end Exact

end CodeTwins.Vec
