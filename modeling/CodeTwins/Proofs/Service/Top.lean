import CodeTwins.Proofs.Service.Pairs
import CodeTwins.Proofs.Similarity.Top

/-!
# What the service tells first

The service tells the top of a ranking: of what is like a record, of what is like a vector, and of
the pairs of records. Who asks with a higher threshold or a lower limit is told the first part of the
same.
-/
namespace CodeTwins.Service

open Store

section Answers

variable {α τ : Type} [Scalar α] {s : Service α τ}

private theorem findSimilar_of_unknown (hopen : s.store.isOpen = true) {id : String}
    (hid : s.store.written.get? id = none) (threshold : α) (limit : Int) :
    (s.findSimilar id threshold limit).1 = .error (.unknownElement id) := by
  have hget : s.onStore (·.get? id) =
      (.ok none, { s with store := { s.store with saved := s.store.written } }) :=
    hid ▸ onStore_read hopen fun t => t.get? id
  rw [findSimilar, hget, ok_andThen]

private theorem searchVector_of_open (hopen : s.store.isOpen = true) (v : Vec α) (threshold : α)
    (limit : Int) :
    (s.searchVector v threshold limit).1 =
      .ok (Similarity.nearest v threshold limit s.store.written.all) := by
  have hall : s.onStore (·.all) = (.ok s.store.written.all,
      { s with store := { s.store with saved := s.store.written } }) := onStore_read hopen Tables.all
  rw [searchVector, hall, ok_andThen]

end Answers

private def namedRecord (id : String) (v : Vec Float) : Record Element (Vec Float) :=
  ⟨id, ⟨⟨"a.js", 1, id, none, none, none⟩, id⟩, v⟩

private def tiedRecords : List (Record Element (Vec Float)) :=
  [namedRecord "f" [1, 0], namedRecord "g" [0, 1], namedRecord "h" [1, 0], namedRecord "i" [1, 0]]

private def tiedService : Service Float Int where
  store := Store.run (Store.empty 10) [(0, .putAll tiedRecords)]
  embedder := ⟨none, 100⟩
  ids := fun n => String.ofList (List.replicate n 'a')
  now := 0

section Top

variable {τ : Type} {s : Service Float τ}

private theorem findSimilar_unknown_iff (hopen : s.store.isOpen = true) (id : String)
    (threshold : Float) (limit : Int) :
    (s.findSimilar id threshold limit).1 = .error (.unknownElement id) ↔
      ∀ r ∈ s.store.written.records, r.id ≠ id := by
  have hnone : s.store.written.get? id = none ↔ ∀ r ∈ s.store.written.records, r.id ≠ id := by
    simp [Tables.get?]
  rw [← hnone]
  refine ⟨fun herror => ?_, fun hid => findSimilar_of_unknown hopen hid threshold limit⟩
  cases hget : s.store.written.get? id with
  | none => rfl
  | some target =>
    rw [findSimilar_of_open hopen hget] at herror
    cases herror

theorem findSimilar_top (hopen : s.store.isOpen = true) {id : String}
    {target : Record Element (Vec Float)} (hget : s.store.written.get? id = some target)
    (threshold : Float) (limit : Int) :
    let records := s.store.written.all
    let score := fun i : Fin records.length => Vec.cosine target.vector records[i].vector
    ∃ told, (s.findSimilar id threshold limit).1 = .ok (told.map fun i => records[i].element) ∧
      Scored.IsTop score (· < ·) {i | records[i].id ≠ id ∧ threshold ≤ score i} limit told := by
  intro records score
  have hid : target.id = id := by simpa using List.find?_some hget
  let others := (List.finRange records.length).filter fun i => records[i].id != target.id
  have hothers : ∀ i, i ∈ others ↔ records[i].id ≠ id := by simp [others, hid]
  refine ⟨(Scored.rankedPlaces score threshold others).take limit.toNat, ?_, ?_⟩
  · rw [findSimilar_of_open hopen hget, Similarity.alikeRecords_eq_map, List.map_map]
    rfl
  · refine Scored.isTop_take ((Similarity.pairwise_finRange _).filter _)
      ((List.nodup_finRange _).filter _) (fun i => ?_) limit
    rw [Finset.mem_filter_univ, hothers]

theorem searchVector_top (hopen : s.store.isOpen = true) (v : Vec Float) (threshold : Float)
    (limit : Int) :
    let records := s.store.written.all
    let score := fun i : Fin records.length => Vec.cosine v records[i].vector
    ∃ told, (s.searchVector v threshold limit).1 =
        .ok (told.map fun i => ⟨score i, records[i].element⟩) ∧
      Scored.IsTop score (· < ·) {i | threshold ≤ score i} limit told := by
  intro records score
  let places := List.finRange records.length
  refine ⟨(Scored.rankedPlaces score threshold places).take limit.toNat, ?_, ?_⟩
  · rw [searchVector_of_open hopen, Similarity.nearest, Similarity.scoredAgainst,
      ← Similarity.map_finRange]
    exact congrArg Except.ok (Scored.best_places score _ threshold limit _)
  · refine Scored.isTop_take (Similarity.pairwise_finRange _) (List.nodup_finRange _) ?_ limit
    simp

/-- What is told to be like a record, or like a vector, is the top of the records in their order: for
a record, of those with other ids. A record is unknown if and only if there is none with its id. -/
theorem similar_top (hopen : s.store.isOpen = true) (threshold : Float) (limit : Int) :
    (∀ id, (s.findSimilar id threshold limit).1 = .error (.unknownElement id) ↔
      ∀ r ∈ s.store.written.records, r.id ≠ id) ∧
    let records := s.store.written.all
    (∀ id target, s.store.written.get? id = some target →
      let score := fun i : Fin records.length => Vec.cosine target.vector records[i].vector
      ∃ told, (s.findSimilar id threshold limit).1 = .ok (told.map fun i => records[i].element) ∧
        Scored.IsTop score (· < ·) {i | records[i].id ≠ id ∧ threshold ≤ score i} limit told) ∧
    ∀ v : Vec Float,
      let score := fun i : Fin records.length => Vec.cosine v records[i].vector
      ∃ told, (s.searchVector v threshold limit).1 =
          .ok (told.map fun i => ⟨score i, records[i].element⟩) ∧
        Scored.IsTop score (· < ·) {i | threshold ≤ score i} limit told := by
  refine ⟨fun id => ?_, fun id target hget => ?_, fun v => ?_⟩
  · exact findSimilar_unknown_iff hopen id threshold limit
  · exact findSimilar_top hopen hget threshold limit
  · exact searchVector_top hopen v threshold limit

/-- Of two records that are equally like one, the limit allows one. -/
theorem similar_top_tied :
    ∃ told : List (Fin tiedRecords.length),
      (tiedService.findSimilar "f" 1 1).1 = .ok (told.map fun i => tiedRecords[i].element) ∧
        told.length = 1 ∧ ∀ i ∈ told, tiedRecords[i].id ≠ "f" := by
  have hopen : tiedService.store.isOpen = true := rfl
  have hget : tiedService.store.written.get? "f" = some (namedRecord "f" [1, 0]) := by
    decide +kernel
  obtain ⟨told, hanswer, htop⟩ := (similar_top hopen 1 1).2.1 "f" _ hget
  refine ⟨told, hanswer, ?_, fun i hi => ?_⟩
  · have hcandidates : Finset.card {i : Fin tiedRecords.length | tiedRecords[i].id ≠ "f" ∧
        1 ≤ Vec.cosine [1, 0] tiedRecords[i].vector} = 2 := by decide +kernel
    have hlength : (told.length : Int) = min (max 1 0) (2 : Nat) :=
      htop.length.trans (congrArg (fun k : Nat => min (max 1 0) (k : Int)) hcandidates)
    exact Int.ofNat.inj hlength
  · exact ((Finset.mem_filter_univ i).mp (htop.subset i hi)).1

/-- What is told of pairs is the top of the pairs of different records, the earlier one first in each,
in the order of the records. So no two records are told twice, whichever of them comes first. -/
theorem pairs_top (hopen : s.store.isOpen = true)
    (hfinite : ∀ r ∈ s.store.written.all, Vec.IsFinite r.vector) (threshold : Float) (limit : Int) :
    let records := s.store.written.all
    let score := fun p : Fin records.length × Fin records.length =>
      Vec.unitCosine records[p.1].vector records[p.2].vector
    ∃ told, (s.findPairs threshold limit).1 =
        .ok (told.map fun p => ⟨score p, (records[p.1].element, records[p.2].element)⟩) ∧
      Scored.IsTop score (Prod.Lex (· < ·) (· < ·)) {p | p.1 < p.2 ∧ threshold ≤ score p} limit told ∧
      (told.map fun p => s(p.1, p.2)).Nodup := by
  intro records score
  have horder := Similarity.pairwise_finRange records.length
  let places := Similarity.eachLater (List.finRange records.length)
  let told := (Scored.rankedPlaces score threshold places).take limit.toNat
  have htop : Scored.IsTop score (Prod.Lex (· < ·) (· < ·)) {p | p.1 < p.2 ∧ threshold ≤ score p}
      limit told := by
    refine Scored.isTop_take (Similarity.pairwise_eachLater horder)
      (Similarity.nodup_eachLater horder) (fun p => ?_) limit
    rw [Finset.mem_filter_univ, Similarity.mem_eachLater_iff horder]
    simp
  refine ⟨told, ?_, htop, ?_⟩
  · rw [findPairs_of_open hopen, Similarity.closest_eq_map threshold limit hfinite]
    exact congrArg Except.ok List.map_map
  · refine htop.nodup.map_on fun p hp q hq heq => ?_
    have hp := (Finset.mem_filter_univ p).mp (htop.subset p hp)
    have hq := (Finset.mem_filter_univ q).mp (htop.subset q hq)
    rcases Sym2.eq_iff.mp heq with ⟨hfirst, hsecond⟩ | ⟨hfirst, hsecond⟩
    · exact Prod.ext hfirst hsecond
    · exact absurd (hp.1.trans (hsecond ▸ hfirst ▸ hq.1)) (lt_irrefl _)

/-- All three pairs of like records are told, whichever limit above them is given. -/
theorem pairs_top_tied :
    ∃ told : List (Fin tiedRecords.length × Fin tiedRecords.length),
      (tiedService.findPairs 1 100).1 = .ok (told.map fun p =>
        ⟨Vec.unitCosine tiedRecords[p.1].vector tiedRecords[p.2].vector,
          (tiedRecords[p.1].element, tiedRecords[p.2].element)⟩) ∧
        told.length = 3 ∧ ∀ p ∈ told, p.1 < p.2 := by
  have hopen : tiedService.store.isOpen = true := rfl
  have hfinite : ∀ r ∈ tiedService.store.written.all, Vec.IsFinite r.vector := by decide +kernel
  obtain ⟨told, hanswer, htop, -⟩ := pairs_top hopen hfinite 1 100
  refine ⟨told, hanswer, ?_, fun p hp => ?_⟩
  · have hcandidates : Finset.card {p : Fin tiedRecords.length × Fin tiedRecords.length |
        p.1 < p.2 ∧ 1 ≤ Vec.unitCosine tiedRecords[p.1].vector tiedRecords[p.2].vector} = 3 := by
      decide +kernel
    have hlength : (told.length : Int) = min (max 100 0) (3 : Nat) :=
      htop.length.trans (congrArg (fun k : Nat => min (max 100 0) (k : Int)) hcandidates)
    exact Int.ofNat.inj hlength
  · exact ((Finset.mem_filter_univ p).mp (htop.subset p hp)).1

/-- Who asks with a higher threshold and a lower limit is told the first part of the same: up to the
first that does not reach the threshold, and no more than the limit allows. -/
theorem told_of_le (hopen : s.store.isOpen = true) {threshold higher : Float}
    (hthreshold : threshold ≤ higher) {limit lower : Int} (hlimit : lower ≤ limit) :
    (∀ id, s.store.written.get? id = none →
      (s.findSimilar id higher lower).1 = (s.findSimilar id threshold limit).1) ∧
    let records := s.store.written.all
    (∀ id target, s.store.written.get? id = some target →
      let told := Similarity.alikeRecords target threshold limit records
      (s.findSimilar id threshold limit).1 = .ok (told.map (·.element)) ∧
      (s.findSimilar id higher lower).1 =
        .ok (((told.takeWhile fun r => higher ≤ Vec.cosine target.vector r.vector).take
          lower.toNat).map (·.element))) ∧
    (∀ v, ∃ told, (s.searchVector v threshold limit).1 = .ok told ∧
      (s.searchVector v higher lower).1 =
        .ok ((told.takeWhile fun p => higher ≤ p.score).take lower.toNat)) ∧
    ((∀ r ∈ records, Vec.IsFinite r.vector) →
      ∃ told, (s.findPairs threshold limit).1 = .ok told ∧
        (s.findPairs higher lower).1 =
          .ok ((told.takeWhile fun p => higher ≤ p.score).take lower.toNat)) := by
  refine ⟨?_, ?_, ?_, ?_⟩
  · intro id hid
    rw [findSimilar_of_unknown hopen hid, findSimilar_of_unknown hopen hid]
  · intro id target hget told
    refine ⟨findSimilar_of_open hopen hget threshold limit, ?_⟩
    rw [findSimilar_of_open hopen hget, Similarity.alikeRecords_of_le hthreshold hlimit]
  · intro v
    refine ⟨_, searchVector_of_open hopen v threshold limit, ?_⟩
    rw [searchVector_of_open hopen, Similarity.nearest, Similarity.nearest,
      Scored.best_of_le hthreshold hlimit]
    rfl
  · intro hfinite
    obtain ⟨pairs, hpairs, hfewer⟩ := Similarity.closest_of_le hthreshold hlimit hfinite
    refine ⟨_, by rw [findPairs_of_open hopen, hpairs]; rfl, ?_⟩
    rw [findPairs_of_open hopen, hfewer, List.takeWhile_map, ← List.map_take]
    rfl

/-- Of the pairs of finite records, the two that are told for a higher threshold were told before. -/
theorem told_of_le_tied :
    (0 : Float) ≤ 1 ∧ (∀ r ∈ tiedService.store.written.all, Vec.IsFinite r.vector) ∧
      ∃ told, (tiedService.findPairs 0 6).1 = .ok told ∧
        (tiedService.findPairs 1 2).1 = .ok ((told.takeWhile fun p => 1 ≤ p.score).take 2) := by
  have hopen : tiedService.store.isOpen = true := rfl
  have hle : (0 : Float) ≤ 1 := by decide +kernel
  have hfinite : ∀ r ∈ tiedService.store.written.all, Vec.IsFinite r.vector := by decide +kernel
  have htold := told_of_le hopen hle (show (2 : Int) ≤ 6 by decide)
  exact ⟨hle, hfinite, htold.2.2.2 hfinite⟩

end Top

end CodeTwins.Service
