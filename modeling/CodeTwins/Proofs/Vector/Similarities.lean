import CodeTwins.Proofs.Similarity.Closest
import CodeTwins.Proofs.Vector.Exact
import Mathlib.Algebra.BigOperators.Ring.List
import Mathlib.Algebra.Order.BigOperators.Group.List
import Mathlib.Data.List.Sigma

/-!
# All cosines at once

The matrix of similarities is computed for each length on its own and put together place by place. It
has the cosine of each two vectors in their row and column, if numbers are exact.
-/
namespace CodeTwins.Vec

section Update

variable {β γ : Type} {f : β → γ → β} {updates : List (Nat × γ)} {l : List β}

@[simp] theorem length_updateAt : (updateAt f updates l).length = l.length := by
  unfold updateAt
  induction updates generalizing l with
  | nil => rfl
  | cons update rest ih => rw [List.foldl_cons, ih, List.length_modify]

/-- What no single update changes is as before. -/
theorem map_updateAt {δ : Type} {g : β → δ} (hg : ∀ x y, g (f x y) = g x) :
    (updateAt f updates l).map g = l.map g := by
  unfold updateAt
  induction updates generalizing l with
  | nil => rfl
  | cons update rest ih =>
    have hmodify : (l.modify update.1 (f · update.2)).map g = l.map g := by
      refine List.ext_getElem? fun i => ?_
      rw [List.getElem?_map, List.getElem?_map, List.getElem?_modify]
      cases l[i]? with
      | none => rfl
      | some x => by_cases h : update.1 = i <;> simp [h, hg]
    rw [List.foldl_cons, ih, hmodify]

private theorem getElem?_updateAt_of_not_mem {i : Nat} (hi : ∀ update ∈ updates, update.1 ≠ i) :
    (updateAt f updates l)[i]? = l[i]? := by
  unfold updateAt
  induction updates generalizing l with
  | nil => rfl
  | cons update rest ih =>
    obtain ⟨hfirst, hrest⟩ := List.forall_mem_cons.mp hi
    rw [List.foldl_cons, ih hrest]
    simp [hfirst]

private theorem getElem?_updateAt_of_mem (hplaces : (updates.map Prod.fst).Nodup) {i : Nat} {x : γ}
    (hx : (i, x) ∈ updates) : (updateAt f updates l)[i]? = l[i]?.map (f · x) := by
  induction updates generalizing l with
  | nil => cases hx
  | cons update rest ih =>
    obtain ⟨hplace, hrest⟩ := List.nodup_cons.mp hplaces
    have hcons : updateAt f (update :: rest) l =
        updateAt f rest (l.modify update.1 (f · update.2)) := rfl
    have hother : ∀ u ∈ rest, u.1 ≠ update.1 := by
      intro u hu heq
      exact hplace (heq ▸ List.mem_map_of_mem hu)
    rw [hcons]
    rcases List.mem_cons.mp hx with rfl | hmem
    · rw [getElem?_updateAt_of_not_mem hother]
      simp
    · have hne : update.1 ≠ i := (hother (i, x) hmem).symm
      rw [ih hrest hmem]
      simp [hne]

end Update

section Groups

variable {α : Type} {vs : List (Vec α)} {n i j : Nat} {v w : Vec α}

/-- The vectors of a length, each with its place. -/
def placed (n : Nat) (vs : List (Vec α)) : List (Vec α × Nat) :=
  vs.zipIdx.filter (·.1.length = n)

private theorem mem_placed : (v, i) ∈ placed n vs ↔ vs[i]? = some v ∧ v.length = n := by
  simp [placed, List.mem_zipIdx_iff_getElem?]

private theorem filter_length_eq (n : Nat) (vs : List (Vec α)) :
    vs.filter (·.length = n) = (placed n vs).map Prod.fst := by
  have hmap := List.filter_map (p := fun v : Vec α => decide (v.length = n)) (f := Prod.fst)
    (l := vs.zipIdx)
  rw [List.zipIdx_map_fst] at hmap
  exact hmap

private theorem nodup_placesOf (n : Nat) (vs : List (Vec α)) : (placesOf n vs).Nodup :=
  (List.nodup_zipIdx_map_snd vs).sublist (List.filter_sublist.map Prod.snd)

/-- Values for the vectors of a length, put in at their places. -/
theorem getElem?_updateAt_placesOf {β γ : Type} (f : β → γ → β) (g : Vec α → γ)
    (hi : vs[i]? = some v) (l : List β) :
    (updateAt f ((placesOf n vs).zip ((vs.filter (·.length = n)).map g)) l)[i]? =
      if v.length = n then l[i]?.map (f · (g v)) else l[i]? := by
  have hzip : (placesOf n vs).zip ((vs.filter (·.length = n)).map g) =
      (placed n vs).map fun p => (p.2, g p.1) := by
    rw [filter_length_eq, List.map_map]
    exact List.zip_map'
  rw [hzip]
  split
  case isTrue hv =>
    have hplaces : (((placed n vs).map fun p => (p.2, g p.1)).map Prod.fst).Nodup := by
      rw [List.map_map]
      exact nodup_placesOf n vs
    have hmem : (i, g v) ∈ (placed n vs).map fun p => (p.2, g p.1) :=
      List.mem_map.mpr ⟨(v, i), mem_placed.mpr ⟨hi, hv⟩, rfl⟩
    rw [getElem?_updateAt_of_mem hplaces hmem]
  case isFalse hv =>
    refine getElem?_updateAt_of_not_mem ?_
    rintro update hmem rfl
    obtain ⟨⟨u, k⟩, hp, rfl⟩ := List.mem_map.mp hmem
    obtain ⟨hk, hu⟩ := mem_placed.mp hp
    obtain rfl : u = v := Option.some.inj (hk.symm.trans hi)
    exact hv hu

/-- An entry of a matrix that is given by its rows. -/
def entry (rows : List (List α)) (i j : Nat) : Option α :=
  rows[i]?.bind fun row => row[j]?

private theorem entry_scatter (product : Vec α → Vec α → α) (hi : vs[i]? = some v)
    (hj : vs[j]? = some w) (rows : List (List α)) :
    entry (scatter (placesOf n vs)
        ((vs.filter (·.length = n)).map fun v => (vs.filter (·.length = n)).map (product v)) rows) i j =
      (entry rows i j).map fun x => if v.length = n ∧ w.length = n then product v w else x := by
  have hrows := getElem?_updateAt_placesOf (n := n)
    (fun row entries => updateAt (fun _ x => x) ((placesOf n vs).zip entries) row)
    (fun v => (vs.filter (·.length = n)).map (product v)) hi rows
  rw [entry, entry, scatter, hrows]
  cases rows[i]? with
  | none => simp
  | some row =>
    have hrow := getElem?_updateAt_placesOf (n := n) (fun _ x => x) (product v) hj row
    by_cases hv : v.length = n
    · rw [if_pos hv, Option.map_some, Option.bind_some, Option.bind_some, hrow]
      by_cases hw : w.length = n <;> simp [hv, hw]
    · simp [hv]

end Groups

section Matrix

variable {α : Type} [Scalar α] {vs : List (Vec α)} {i j : Nat} {v w : Vec α}

/-- The similarity of two vectors by the inner product of the vectors scaled to unit length. -/
def unitCosine (v w : Vec α) : α :=
  clamp (if v.length = w.length ∧ v ≠ [] then dot (scaled v) (scaled w) else Scalar.zero)

private theorem unitProducts_eq (vs : List (Vec α)) :
    unitProducts vs = vs.map fun v => vs.map fun w => dot (scaled v) (scaled w) := by
  simp [unitProducts, Function.comp_def]

private theorem entry_foldl_scatter (hi : vs[i]? = some v) (hj : vs[j]? = some w) (ns : List Nat)
    (rows : List (List α)) :
    entry (ns.foldl (fun rows n =>
        scatter (placesOf n vs) (unitProducts (vs.filter (·.length = n))) rows) rows) i j =
      (entry rows i j).map fun x =>
        if v.length = w.length ∧ v.length ∈ ns then dot (scaled v) (scaled w) else x := by
  induction ns generalizing rows with
  | nil => simp
  | cons n ns ih =>
    rw [List.foldl_cons, ih, unitProducts_eq, entry_scatter _ hi hj, Option.map_map]
    congr 1
    funext x
    simp only [Function.comp_apply, List.mem_cons]
    grind

private theorem entry_similarities (hi : vs[i]? = some v) (hj : vs[j]? = some w) :
    entry (similarities vs) i j = some (unitCosine v w) := by
  have hlength : v.length ∈ lengthsOf vs ↔ v ≠ [] := by
    rw [mem_lengthsOf, Ne, List.length_eq_zero_iff]
    exact and_iff_right ⟨v, List.mem_of_getElem? hi, rfl⟩
  have hzeros : entry (List.replicate vs.length (List.replicate vs.length (Scalar.zero : α))) i j =
      some Scalar.zero := by
    have hi' : i < vs.length := (List.getElem?_eq_some_iff.mp hi).1
    have hj' : j < vs.length := (List.getElem?_eq_some_iff.mp hj).1
    simp [entry, hi', hj']
  have hfold := entry_foldl_scatter hi hj (lengthsOf vs)
    (List.replicate vs.length (List.replicate vs.length (Scalar.zero : α)))
  rw [hzeros, Option.map_some] at hfold
  have hclamp : ∀ rows : List (List α),
      entry (rows.map (·.map clamp)) i j = (entry rows i j).map clamp := by
    intro rows
    simp [entry, Option.map_bind, Option.bind_map]
  rw [similarities, hclamp, hfold, unitCosine]
  simp only [hlength, Option.map_some]

private theorem map_length_similarities (vs : List (Vec α)) :
    (similarities vs).map List.length = List.replicate vs.length vs.length := by
  have hscatter : ∀ (places : List Nat) (block rows : List (List α)),
      (scatter places block rows).map List.length = rows.map List.length :=
    fun places block rows => map_updateAt fun row entries => length_updateAt
  have hfold : ∀ (ns : List Nat) (rows : List (List α)),
      (ns.foldl (fun rows n =>
        scatter (placesOf n vs) (unitProducts (vs.filter (·.length = n))) rows) rows).map
          List.length = rows.map List.length := by
    intro ns
    induction ns with
    | nil => exact fun rows => rfl
    | cons n ns ih =>
      intro rows
      rw [List.foldl_cons, ih, hscatter]
  have hclamp : ∀ rows : List (List α),
      (rows.map (·.map clamp)).map List.length = rows.map List.length := by
    intro rows
    simp [Function.comp_def]
  rw [similarities, hclamp, hfold, List.map_replicate, List.length_replicate]

theorem similarities_eq (vs : List (Vec α)) :
    similarities vs = vs.map fun v => vs.map (unitCosine v) := by
  have hshape := map_length_similarities vs
  refine List.ext_getElem? fun i => ?_
  rw [List.getElem?_map]
  have hrow : (similarities vs)[i]?.map List.length = if i < vs.length then some vs.length else none := by
    rw [← List.getElem?_map, hshape, List.getElem?_replicate]
  cases hi : vs[i]? with
  | none =>
    have hlt : ¬ i < vs.length := Nat.not_lt.mpr (List.getElem?_eq_none_iff.mp hi)
    rw [if_neg hlt, Option.map_eq_none_iff] at hrow
    rw [hrow]
    rfl
  | some v =>
    have hlt : i < vs.length := (List.getElem?_eq_some_iff.mp hi).1
    rw [if_pos hlt] at hrow
    obtain ⟨row, hget, hlength⟩ := Option.map_eq_some_iff.mp hrow
    have hentries : row = vs.map (unitCosine v) := by
      refine List.ext_getElem? fun j => ?_
      rw [List.getElem?_map]
      cases hj : vs[j]? with
      | none =>
        rw [List.getElem?_eq_none_iff] at hj
        exact List.getElem?_eq_none_iff.mpr (hlength ▸ hj)
      | some w =>
        have hentry := entry_similarities hi hj
        rw [entry, hget] at hentry
        exact hentry
    rw [hget, hentries]
    rfl

end Matrix

section Exact

variable {v w : Vec ℝ}

theorem dot_eq_sum (v w : Vec ℝ) : dot v w = (List.zipWith (· * ·) v w).sum :=
  List.sum_eq_foldl.symm

private theorem dot_comm (v w : Vec ℝ) : dot v w = dot w v := by
  rw [dot_eq_sum, dot_eq_sum, List.zipWith_comm_of_comm mul_comm]

private theorem dot_div (v w : Vec ℝ) (a b : ℝ) :
    dot (v.map (· / a)) (w.map (· / b)) = dot v w / (a * b) := by
  have hmul : List.zipWith (· * ·) (v.map (· / a)) (w.map (· / b)) =
      (List.zipWith (· * ·) v w).map (· * (a * b)⁻¹) := by
    rw [List.zipWith_map, List.map_zipWith]
    congr 1
    funext x y
    rw [div_mul_div_comm, div_eq_mul_inv]
  have hsum := List.sum_map_mul_right (List.zipWith (· * ·) v w) id (a * b)⁻¹
  rw [List.map_id] at hsum
  rw [dot_eq_sum, hmul, dot_eq_sum, div_eq_mul_inv]
  exact hsum

/-- A vector without magnitude is zero throughout. -/
theorem eq_zero_of_norm (h : norm v = 0) : ∀ x ∈ v, x = 0 := by
  have hself : dot v v = (v.map fun x => x * x).sum := by
    rw [dot_eq_sum, List.zipWith_self]
  have hsquares : ∀ y ∈ v.map fun x => x * x, 0 ≤ y := by
    intro y hy
    obtain ⟨x, -, rfl⟩ := List.mem_map.mp hy
    exact mul_self_nonneg x
  have hzero : (v.map fun x => x * x).sum = 0 := by
    have hle : dot v v ≤ 0 := Real.sqrt_eq_zero'.mp h
    rw [hself] at hle
    exact le_antisymm hle (List.sum_nonneg hsquares)
  intro x hx
  have hsquare : x * x = 0 :=
    List.all_zero_of_le_zero_le_of_sum_eq_zero hsquares hzero (List.mem_map_of_mem hx)
  exact mul_self_eq_zero.mp hsquare

private theorem dot_eq_zero_of_norm (h : norm v = 0) (w : Vec ℝ) : dot v w = 0 := by
  rw [dot_eq_sum]
  refine List.sum_eq_zero fun y hy => ?_
  obtain ⟨i, hi, rfl⟩ := List.getElem_of_mem hy
  rw [List.getElem_zipWith, eq_zero_of_norm h _ (List.getElem_mem _), zero_mul]

/-- What is within the bounds is left as it is. -/
theorem clamp_of_bounds {x : ℝ} (hlow : -1 ≤ x) (hhigh : x ≤ 1) : clamp x = x := by
  have hupper : (if Scalar.lt x Scalar.one then x else Scalar.one) = x := by
    split
    case isTrue => rfl
    case isFalse h =>
      have hnot : ¬ x < 1 := of_decide_eq_false (Bool.not_eq_true _ ▸ h)
      exact le_antisymm (not_lt.mp hnot) hhigh
  have hlower : (if Scalar.lt Scalar.minusOne x then x else Scalar.minusOne) = x := by
    split
    case isTrue => rfl
    case isFalse h =>
      have hnot : ¬ -1 < x := of_decide_eq_false (Bool.not_eq_true _ ▸ h)
      exact le_antisymm hlow (not_lt.mp hnot)
  rw [clamp, hupper, hlower]

private theorem clamp_zero : clamp (0 : ℝ) = 0 :=
  clamp_of_bounds neg_one_lt_zero.le zero_le_one

theorem cosine_of_length_ne (h : v.length ≠ w.length) : cosine v w = 0 := by
  rw [cosine, if_pos h]
  rfl

theorem cosine_eq (h : v.length = w.length) :
    cosine v w = if norm v = 0 ∨ norm w = 0 then 0 else clamp (dot v w / (norm v * norm w)) := by
  have hzero : ∀ x : ℝ, Scalar.isZero x = true ↔ x = 0 := fun x => decide_eq_true_iff
  rw [cosine, if_neg (not_not.mpr h)]
  simp only [Bool.or_eq_true, hzero]
  rfl

theorem cosine_comm (v w : Vec ℝ) : cosine v w = cosine w v := by
  by_cases h : v.length = w.length
  · rw [cosine_eq h, cosine_eq h.symm, dot_comm, mul_comm]
    exact if_congr or_comm rfl rfl
  · rw [cosine_of_length_ne h, cosine_of_length_ne (Ne.symm h)]

/-- Only a vector without magnitude is left alone. -/
theorem scaled_eq (v : Vec ℝ) : scaled v = v.map (· / if norm v = 0 then 1 else norm v) := by
  have hdivisor : (if Scalar.isNegligible (norm v) = true then Scalar.one else norm v) =
      if norm v = 0 then 1 else norm v := if_congr decide_eq_true_iff rfl rfl
  rw [scaled, hdivisor]
  rfl

private theorem unitCosine_eq_cosine (v w : Vec ℝ) : unitCosine v w = cosine v w := by
  by_cases hlength : v.length = w.length
  · rw [cosine_eq hlength]
    by_cases hnil : v = []
    · have hnorm : norm v = 0 := by
        rw [hnil]
        exact Real.sqrt_zero
      rw [unitCosine, if_neg (fun h => h.2 hnil), if_pos (.inl hnorm)]
      exact clamp_zero
    · rw [unitCosine, if_pos ⟨hlength, hnil⟩, scaled_eq, scaled_eq, dot_div]
      by_cases hv : norm v = 0
      · rw [dot_eq_zero_of_norm hv, zero_div, if_pos (.inl hv), clamp_zero]
      · by_cases hw : norm w = 0
        · rw [dot_comm, dot_eq_zero_of_norm hw, zero_div, if_pos (.inr hw), clamp_zero]
        · rw [if_neg hv, if_neg hw, if_neg (not_or.mpr ⟨hv, hw⟩)]
  · rw [cosine_of_length_ne hlength, unitCosine, if_neg (fun h => hlength h.1)]
    exact clamp_zero

private theorem firstFault_exact (vs : List (Vec ℝ)) : firstFault vs = none := by
  have hfault : ∀ group : List (Vec ℝ), faultOf group = none := by
    intro group
    have hnan : group.any (·.any Scalar.isNaN) = false := by simp [Scalar.isNaN]
    have hinf : group.any (·.any Scalar.isInf) = false := by simp [Scalar.isInf]
    rw [faultOf, hnan, hinf]
    rfl
  exact List.findSome?_eq_none_iff.mpr fun n _ => hfault _

/-- Of exact vectors, the matrix has all cosines. -/
theorem matrix_exact (vs : List (Vec ℝ)) :
    matrix vs = .ok (vs.map fun v => vs.map (cosine v)) := by
  have hcosines : (fun v : Vec ℝ => vs.map (unitCosine v)) = fun v => vs.map (cosine v) :=
    funext fun v => List.map_congr_left fun w _ => unitCosine_eq_cosine v w
  rw [matrix, firstFault_exact, similarities_eq, hcosines]

end Exact

end CodeTwins.Vec
