import CodeTwins.Similarity

/-!
# When the closest pairs can be told

The matrix of similarities is refused if and only if one of the vectors has a number that is not
finite. A single vector is never looked at. All that is told is about the given records.
-/
namespace CodeTwins

/-- A vector of finite numbers. -/
def Vec.IsFinite (v : Vec Float) : Prop :=
  ∀ x ∈ v, x.isNaN = false ∧ x.isInf = false

instance (v : Vec Float) : Decidable v.IsFinite :=
  inferInstanceAs (Decidable (∀ x ∈ v, x.isNaN = false ∧ x.isInf = false))

namespace Vec

variable {vs : List (Vec Float)}

private theorem any_any_eq_false (vs : List (Vec Float)) (p : Float → Bool) :
    vs.any (·.any p) = false ↔ ∀ v ∈ vs, ∀ x ∈ v, p x = false := by
  simp

private theorem faultOf_eq_none_iff : faultOf vs = none ↔ ∀ v ∈ vs, IsFinite v := by
  have hnan := any_any_eq_false vs Scalar.isNaN
  have hinf := any_any_eq_false vs Scalar.isInf
  unfold faultOf
  constructor
  · intro h v hv x hx
    split at h
    · cases h
    case isFalse hnan' =>
      split at h
      · cases h
      case isFalse hinf' =>
        exact ⟨hnan.mp (Bool.eq_false_iff.mpr hnan') v hv x hx,
          hinf.mp (Bool.eq_false_iff.mpr hinf') v hv x hx⟩
  · intro h
    have hnan' := hnan.mpr fun v hv x hx => (h v hv x hx).1
    have hinf' := hinf.mpr fun v hv x hx => (h v hv x hx).2
    rw [if_neg (Bool.eq_false_iff.mp hnan'), if_neg (Bool.eq_false_iff.mp hinf')]

theorem mem_lengthsOf {α : Type} {vs : List (Vec α)} {n : Nat} :
    n ∈ lengthsOf vs ↔ (∃ v ∈ vs, v.length = n) ∧ n ≠ 0 := by
  simp [lengthsOf, List.mem_eraseDups]

theorem firstFault_eq_none_iff : firstFault vs = none ↔ ∀ v ∈ vs, IsFinite v := by
  simp only [firstFault, List.findSome?_eq_none_iff, faultOf_eq_none_iff]
  constructor
  · intro h v hv
    by_cases hnil : v = []
    · simp [hnil, IsFinite]
    · exact h v.length (mem_lengthsOf.mpr ⟨⟨v, hv, rfl⟩, by simpa using hnil⟩) v (by simp [hv])
  · intro h n _ v hv
    exact h v ((List.mem_filter.mp hv).1)

end Vec

namespace Similarity

open Store

theorem mem_best {α β : Type} [Scalar α] {threshold : α} {limit : Int} {l : List (Scored α β)}
    {s : Scored α β} (h : s ∈ Scored.best threshold limit l) : s ∈ l := by
  have hranked := List.mem_of_mem_take h
  rw [Scored.ranked, List.mem_mergeSort] at hranked
  exact (List.mem_filter.mp hranked).1

private theorem mem_of_mem_upperTriangle {α β : Type} {items : List β} {rows : List (List α)}
    {p : Scored α (β × β)} (h : p ∈ upperTriangle items rows) :
    p.item.1 ∈ items ∧ p.item.2 ∈ items := by
  induction items generalizing rows with
  | nil => cases h
  | cons x xs ih =>
    cases rows with
    | nil => cases h
    | cons row rows =>
      rcases List.mem_append.mp h with hfirst | hrest
      · obtain ⟨i, hi, rfl⟩ := List.getElem_of_mem hfirst
        simp
      · exact ⟨.tail _ (ih hrest).1, .tail _ (ih hrest).2⟩

variable {ε : Type} {threshold : Float} {limit : Int} {records : List (Record ε (Vec Float))}

theorem mem_of_mem_alike {α : Type} [Scalar α] {target : Record ε (Vec α)} {threshold : α}
    {records : List (Record ε (Vec α))} {e : ε} (h : e ∈ alike target threshold limit records) :
    ∃ r ∈ records, r.element = e := by
  obtain ⟨scored, hscored, rfl⟩ := List.mem_map.mp h
  obtain ⟨r, hr, rfl⟩ := List.mem_map.mp (mem_best hscored)
  exact ⟨r, (List.mem_filter.mp hr).1, rfl⟩

theorem mem_of_closest {pairs : List (Scored Float (Record ε (Vec Float) × Record ε (Vec Float)))}
    (h : closest threshold limit records = .ok pairs) :
    ∀ p ∈ pairs, p.item.1 ∈ records ∧ p.item.2 ∈ records := by
  unfold closest at h
  split at h
  · cases h
    simp
  · cases hmatrix : Vec.matrix (records.map (·.vector)) with
    | error u =>
      rw [hmatrix] at h
      cases h
    | ok rows =>
      rw [hmatrix] at h
      cases h
      exact fun p hp => mem_of_mem_upperTriangle (mem_best hp)

theorem closest_ok_iff (threshold : Float) (limit : Int)
    (records : List (Record ε (Vec Float))) :
    (∃ pairs, closest threshold limit records = .ok pairs) ↔
      records.length < 2 ∨ ∀ r ∈ records, Vec.IsFinite r.vector := by
  have hfinite : Vec.firstFault (records.map (·.vector)) = none ↔
      ∀ r ∈ records, Vec.IsFinite r.vector := by
    simp [Vec.firstFault_eq_none_iff]
  unfold closest
  by_cases hlength : records.length < 2
  · simp [hlength]
  · rw [if_neg hlength, ← hfinite]
    cases hfault : Vec.firstFault (records.map (·.vector)) with
    | none => simp [Vec.matrix, hfault, Except.map]
    | some u => simp [Vec.matrix, hfault, Except.map, hlength]

end Similarity

end CodeTwins
