import CodeTwins.Proofs.Decimal.NotANumber
import CodeTwins.Proofs.Service.Top
import CodeTwins.Proofs.Vector.Undefined

/-!
# What is told of vectors without a cosine

Who asks what is like a record, or like a vector, is also told of records whose cosine with it is
not defined. These pass for the most similar ones.
-/
namespace CodeTwins.Service

open Store

private def recordAt (id : String) (v : Vec Float) : Record Element (Vec Float) :=
  ⟨id, ⟨⟨"a.js", 1, id, none, none, none⟩, id⟩, v⟩

private def spoilt : Vec Float :=
  [0 / 0]

private def spoiltService : Service Float Int where
  store := Store.run (Store.empty 10) [(0, .putAll [recordAt "a" spoilt, recordAt "b" [1]])]
  embedder := ⟨none, 100⟩
  ids := fun n => String.ofList (List.replicate n 'a')
  now := 0

section Undefined

variable {τ : Type} {s : Service Float τ} {threshold : Float} {limit : Int}

private theorem le_cosine_iff_of_isUndefined {v w : Vec Float} (h : Vec.IsUndefined v w)
    (hthreshold : 0 < threshold) :
    threshold ≤ Vec.cosine v w ↔ Vec.HasMagnitude v ∧ Vec.HasMagnitude w ∧ threshold ≤ 1 := by
  rw [Vec.cosine_of_isUndefined h]
  split
  case isTrue hboth => simp only [hboth.1, hboth.2, true_and]
  case isFalse hnot =>
    refine iff_of_false (Decimal.pos_iff_not_le.mp hthreshold).1 ?_
    intro hall
    exact hnot ⟨hall.1, hall.2.1⟩

private theorem card_le_limit {n : Nat} (hlimit : n ≤ limit) (candidates : Finset (Fin n)) :
    (candidates.card : Int) ≤ limit := by
  have hcard : candidates.card ≤ n := card_finset_fin_le candidates
  omega

private theorem findSimilar_of_isUndefined (hopen : s.store.isOpen = true)
    (hthreshold : 0 < threshold) (hlimit : s.store.written.all.length ≤ limit) {id : String}
    {target : Record Element (Vec Float)} (hget : s.store.written.get? id = some target) :
    let records := s.store.written.all
    ∃ told : List (Fin records.length),
      (s.findSimilar id threshold limit).1 = .ok (told.map fun i => records[i].element) ∧
      ∀ i, Vec.IsUndefined target.vector records[i].vector →
        (i ∈ told ↔ records[i].id ≠ id ∧
          Vec.HasMagnitude target.vector ∧ Vec.HasMagnitude records[i].vector ∧ threshold ≤ 1) := by
  intro records
  obtain ⟨told, hanswer, htop⟩ := findSimilar_top hopen hget threshold limit
  refine ⟨told, hanswer, ?_⟩
  intro i hundefined
  rw [htop.mem_iff (card_le_limit hlimit _), Finset.mem_filter_univ,
    le_cosine_iff_of_isUndefined hundefined hthreshold]

private theorem searchVector_of_isUndefined (hopen : s.store.isOpen = true)
    (hthreshold : 0 < threshold) (hlimit : s.store.written.all.length ≤ limit) (v : Vec Float) :
    let records := s.store.written.all
    ∃ told : List (Fin records.length),
      (s.searchVector v threshold limit).1 =
        .ok (told.map fun i => ⟨Vec.cosine v records[i].vector, records[i].element⟩) ∧
      ∀ i, Vec.IsUndefined v records[i].vector →
        (i ∈ told ↔ Vec.HasMagnitude v ∧ Vec.HasMagnitude records[i].vector ∧ threshold ≤ 1) := by
  intro records
  obtain ⟨told, hanswer, htop⟩ := searchVector_top hopen v threshold limit
  refine ⟨told, hanswer, ?_⟩
  intro i hundefined
  rw [htop.mem_iff (card_le_limit hlimit _), Finset.mem_filter_univ,
    le_cosine_iff_of_isUndefined hundefined hthreshold]

/-- Two vectors of one length have no cosine if one of them is not finite, and what is not finite
has a magnitude. Vectors that have no cosine are told to be as alike as can be, unless one of them
has no magnitude. -/
theorem told_of_isUndefined (hopen : s.store.isOpen = true) (hthreshold : 0 < threshold)
    (hlimit : s.store.written.all.length ≤ limit) :
    (∀ v w : Vec Float, v.length = w.length → ¬ v.IsFinite ∨ ¬ w.IsFinite → Vec.IsUndefined v w) ∧
    (∀ v : Vec Float, ¬ v.IsFinite → Vec.HasMagnitude v) ∧
    (∀ v w : Vec Float, Vec.IsUndefined v w →
      Vec.cosine v w = if Vec.HasMagnitude v ∧ Vec.HasMagnitude w then 1 else 0) ∧
    let records := s.store.written.all
    (∀ id target, s.store.written.get? id = some target →
      ∃ told : List (Fin records.length),
        (s.findSimilar id threshold limit).1 = .ok (told.map fun i => records[i].element) ∧
        ∀ i, Vec.IsUndefined target.vector records[i].vector →
          (i ∈ told ↔ records[i].id ≠ id ∧
            Vec.HasMagnitude target.vector ∧ Vec.HasMagnitude records[i].vector ∧ threshold ≤ 1)) ∧
    ∀ v : Vec Float, ∃ told : List (Fin records.length),
      (s.searchVector v threshold limit).1 =
        .ok (told.map fun i => ⟨Vec.cosine v records[i].vector, records[i].element⟩) ∧
      ∀ i, Vec.IsUndefined v records[i].vector →
        (i ∈ told ↔ Vec.HasMagnitude v ∧ Vec.HasMagnitude records[i].vector ∧ threshold ≤ 1) := by
  refine ⟨?_, ?_, ?_, ?_, ?_⟩
  · intro v w hlength hfinite
    exact Vec.isUndefined_of_not_isFinite hlength hfinite
  · intro v hfinite
    exact Vec.hasMagnitude_of_not_isFinite hfinite
  · intro v w hundefined
    exact Vec.cosine_of_isUndefined hundefined
  · intro id target hget
    exact findSimilar_of_isUndefined hopen hthreshold hlimit hget
  · intro v
    exact searchVector_of_isUndefined hopen hthreshold hlimit v

/-- What is not a number is told to be like any vector that has a magnitude. -/
theorem told_of_isUndefined_spoilt :
    let records := spoiltService.store.written.all
    (0 : Float) < 0.5 ∧ (records.length : Int) ≤ 10 ∧
      ∃ told : List (Fin records.length),
        (spoiltService.searchVector [1] 0.5 10).1 =
          .ok (told.map fun i => ⟨Vec.cosine [1] records[i].vector, records[i].element⟩) ∧
        ∃ i ∈ told, records[i] = recordAt "a" spoilt := by
  intro records
  have hopen : spoiltService.store.isOpen = true := rfl
  have hthreshold : (0 : Float) < 0.5 := by decide +kernel
  have hlimit : (records.length : Int) ≤ 10 := by decide +kernel
  have hget : records[0]? = some (recordAt "a" spoilt) := by decide +kernel
  obtain ⟨hfirst, hrecord⟩ := List.getElem?_eq_some_iff.mp hget
  obtain ⟨hundefined, -, -, -, hsearch⟩ := told_of_isUndefined hopen hthreshold hlimit
  obtain ⟨told, hanswer, hmem⟩ := hsearch [1]
  have hspoilt : Vec.IsUndefined [1] spoilt :=
    hundefined _ _ rfl (.inr (by decide +kernel))
  have hmagnitude : Vec.HasMagnitude [1] ∧ Vec.HasMagnitude spoilt ∧ (0.5 : Float) ≤ 1 := by
    decide +kernel
  have htold := hmem ⟨0, hfirst⟩
  rw [Fin.getElem_fin, hrecord] at htold
  exact ⟨hthreshold, hlimit, told, hanswer, ⟨0, hfirst⟩, (htold hspoilt).mpr hmagnitude, hrecord⟩

/-- A record that is not a number is told to be like one that is. -/
theorem told_spoilt :
    Vec.IsUndefined spoilt [1] ∧ 0 < Vec.cosine spoilt [1] ∧
      (spoiltService.findSimilar "a" 0.5 10).1 = .ok [(recordAt "b" [1]).element] := by
  refine ⟨⟨rfl, ?_⟩, ?_, ?_⟩
  · decide +kernel
  · decide +kernel
  · decide +kernel

end Undefined

end CodeTwins.Service
