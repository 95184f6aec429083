import CodeTwins.Proofs.Service.Basic
import CodeTwins.Proofs.Similarity.Pairs
import CodeTwins.Proofs.Store.Records
import CodeTwins.Service.Query

/-!
# The two ways to ask

Which records are alike can be asked of all pairs at once, or of each record by its id. The answers
agree, whatever the store has gone through, as far as limits cut nothing off.
-/
namespace CodeTwins.Service

open Store

section Answers

variable {α τ : Type} [Scalar α] {s : Service α τ}

omit [Scalar α] in
/-- To read the tables of an open store saves what was written. -/
theorem onStore_read (hopen : s.store.isOpen = true) {β : Type}
    (f : Tables Element (Vec α) τ → β) :
    s.onStore (·.transact fun t => (t, f t)) =
      (.ok (f s.store.written), { s with store := { s.store with saved := s.store.written } }) := by
  rw [onStore, transact_of_open hopen]
  rfl

theorem findSimilar_of_open (hopen : s.store.isOpen = true) {id : String}
    {target : Record Element (Vec α)} (htarget : s.store.written.get? id = some target)
    (threshold : α) (limit : Int) :
    (s.findSimilar id threshold limit).1 =
      .ok ((Similarity.alikeRecords target threshold limit s.store.written.all).map
        (·.element)) := by
  have hget : s.onStore (·.get? id) =
      (.ok (some target), { s with store := { s.store with saved := s.store.written } }) :=
    htarget ▸ onStore_read hopen fun t => t.get? id
  have hall := onStore_read (s := { s with store := { s.store with saved := s.store.written } })
    hopen Tables.all
  change onStore _ (·.all) = _ at hall
  rw [← Similarity.alike_eq_map, findSimilar, hget, ok_andThen]
  dsimp only
  rw [hall]
  rfl

theorem findPairs_of_open (hopen : s.store.isOpen = true) (threshold : α) (limit : Int) :
    (s.findPairs threshold limit).1 =
      ((Similarity.closest threshold limit s.store.written.all).mapError .vectors).map fun pairs =>
        pairs.map fun p => ⟨p.score, (p.item.1.element, p.item.2.element)⟩ := by
  have hall : s.onStore (·.all) = (.ok s.store.written.all,
      { s with store := { s.store with saved := s.store.written } }) := onStore_read hopen Tables.all
  rw [findPairs, hall, ok_andThen]

end Answers

/-- A limit that cuts nothing off: a larger one gives the same. -/
def Enough {β : Type} (ask : Int → β) (limit : Int) : Prop :=
  ∀ larger, limit ≤ larger → ask larger = ask limit

section Exact

variable {τ : Type} {s : Service ℝ τ} {threshold : ℝ} {limit : Int}

/-- Whoever is asked about a record, a limit that is enough leaves all that are like it. -/
theorem mem_like_iff (hopen : s.store.isOpen = true) {r r' : Record Element (Vec ℝ)}
    (hr : r ∈ s.store.written.all)
    (henough : Enough (fun limit => (s.findSimilar r.id threshold limit).1) limit) :
    r' ∈ Similarity.alikeRecords r threshold limit s.store.written.all ↔
      r' ∈ s.store.written.all ∧ r'.id ≠ r.id ∧ threshold ≤ Vec.cosine r.vector r'.vector := by
  have hget := Tables.get?_of_mem_all hr
  have hlarger := henough (max limit s.store.written.all.length) (le_max_left _ _)
  simp only [findSimilar_of_open hopen hget] at hlarger
  have hlength := congrArg List.length (Except.ok.inj hlarger)
  rw [List.length_map, List.length_map] at hlength
  exact Similarity.mem_alikeRecords_iff (by omega) hlength

private theorem mem_told_iff (hopen : s.store.isOpen = true)
    (hids : (s.store.written.all.map (·.id)).Nodup)
    (henough : Enough (fun limit => (s.findPairs threshold limit).1) limit)
    {x y : Record Element (Vec ℝ)} (hx : x ∈ s.store.written.all)
    (hy : y ∈ s.store.written.all) :
    (∃ p ∈ Scored.best threshold limit (Similarity.scoredPairs s.store.written.all),
      p.item = (x, y) ∨ p.item = (y, x)) ↔
        x.id ≠ y.id ∧ threshold ≤ Vec.cosine x.vector y.vector := by
  have hclosest := Similarity.closest_exact threshold limit s.store.written.all
  let square := s.store.written.all.length * s.store.written.all.length
  have hlarger := henough (max limit (square : Nat)) (le_max_left _ _)
  simp only [findPairs_of_open hopen, Similarity.closest_exact] at hlarger
  have hlength := congrArg List.length (Except.ok.inj hlarger)
  rw [List.length_map, List.length_map] at hlength
  exact Similarity.mem_closest_iff hids (by omega) hlength hclosest hx hy

end Exact

variable {τ : Type} [LT τ] [DecidableRel (α := τ) (· < ·)] [Add τ]

/-- The matrix of exact vectors has their cosines. So in every store, and with limits that cut
nothing off, two records are told as a pair if and only if one of them is told to be like the other,
whichever of the two that is. -/
theorem pairs_iff_alike {s : Service ℝ τ} {ttl : τ} {ops : List (τ × Op Element (Vec ℝ))}
    (hstore : s.store = Store.run (Store.empty ttl) ops) (threshold : ℝ) :
    let records := s.store.written.all
    (∀ vs : List (Vec ℝ), Vec.matrix vs = .ok (vs.map fun v => vs.map fun w => Vec.cosine v w)) ∧
      ∀ x ∈ records, ∀ y ∈ records, ∀ limit limitX limitY,
        Enough (fun limit => (s.findPairs threshold limit).1) limit →
        Enough (fun limit => (s.findSimilar x.id threshold limit).1) limitX →
        Enough (fun limit => (s.findSimilar y.id threshold limit).1) limitY →
        let likeX := Similarity.alikeRecords x threshold limitX records
        let likeY := Similarity.alikeRecords y threshold limitY records
        ∃ pairs, Similarity.closest threshold limit records = .ok pairs ∧
          (s.findPairs threshold limit).1 =
            .ok (pairs.map fun p => ⟨p.score, (p.item.1.element, p.item.2.element)⟩) ∧
          (s.findSimilar x.id threshold limitX).1 = .ok (likeX.map (·.element)) ∧
          (s.findSimilar y.id threshold limitY).1 = .ok (likeY.map (·.element)) ∧
          ((∃ p ∈ pairs, p.item = (x, y) ∨ p.item = (y, x)) ↔ y ∈ likeX) ∧
          (y ∈ likeX ↔ x ∈ likeY) := by
  intro records
  refine ⟨Vec.matrix_exact, ?_⟩
  intro x hx y hy limit limitX limitY hpairs hlikeX hlikeY likeX likeY
  have hopen : s.store.isOpen = true :=
    isOpen_of_setup (s := Store.empty ttl) (by rw [hstore, Store.setup_run])
  have hids : (records.map (·.id)).Nodup := by
    have hrun := nodup_ids_run ttl ops
    rw [← hstore] at hrun
    exact hrun
  have hsimilar : ∀ r ∈ records, ∀ limit,
      (s.findSimilar r.id threshold limit).1 =
        .ok ((Similarity.alikeRecords r threshold limit records).map (·.element)) :=
    fun r hr limit => findSimilar_of_open hopen (Tables.get?_of_mem_all hr) threshold limit
  have hclosest := Similarity.closest_exact threshold limit records
  have htold : (s.findPairs threshold limit).1 =
      .ok ((Scored.best threshold limit (Similarity.scoredPairs records)).map fun p =>
        ⟨p.score, (p.item.1.element, p.item.2.element)⟩) := by
    rw [findPairs_of_open hopen, hclosest]
    rfl
  have hpair := mem_told_iff hopen hids hpairs hx hy
  have hx' : y ∈ likeX ↔ _ := mem_like_iff hopen hx hlikeX
  have hy' : x ∈ likeY ↔ _ := mem_like_iff hopen hy hlikeY
  refine ⟨_, hclosest, htold, hsimilar x hx limitX, hsimilar y hy limitY, ?_, ?_⟩
  · rw [hpair, hx']
    exact ⟨fun ⟨hid, hscore⟩ => ⟨hy, hid.symm, hscore⟩, fun ⟨_, hid, hscore⟩ => ⟨hid.symm, hscore⟩⟩
  · rw [hx', hy', Vec.cosine_comm]
    exact ⟨fun ⟨_, hid, hscore⟩ => ⟨hx, hid.symm, hscore⟩, fun ⟨_, hid, hscore⟩ => ⟨hy, hid.symm, hscore⟩⟩

section Limits

variable {s : Service ℝ τ} {threshold : ℝ} {limit : Int}

omit [LT τ] [DecidableRel (α := τ) (· < ·)] [Add τ] in
private theorem enough_findSimilar (hopen : s.store.isOpen = true) {r : Record Element (Vec ℝ)}
    (hr : r ∈ s.store.written.all) (hlimit : s.store.written.all.length ≤ limit.toNat) :
    Enough (fun limit => (s.findSimilar r.id threshold limit).1) limit := by
  intro larger hlarger
  have hlength : ∀ records : List (Record Element (Vec ℝ)),
      ((records.filter (·.id != r.id)).map fun r' =>
        (⟨Vec.cosine r.vector r'.vector, r'⟩ : Scored ℝ (Record Element (Vec ℝ)))).length ≤
          records.length := by
    intro records
    rw [List.length_map]
    exact List.length_filter_le _ _
  have hboth : ∀ limit : Int, s.store.written.all.length ≤ limit.toNat →
      Similarity.alikeRecords r threshold limit s.store.written.all =
        (Scored.ranked (Scored.atLeast threshold ((s.store.written.all.filter
          (·.id != r.id)).map fun r' => ⟨Vec.cosine r.vector r'.vector, r'⟩))).map (·.item) := by
    intro limit hlimit
    rw [Similarity.alikeRecords, Scored.best_of_length_le ((hlength _).trans hlimit)]
  have hget := Tables.get?_of_mem_all hr
  dsimp only
  rw [findSimilar_of_open hopen hget, findSimilar_of_open hopen hget, hboth limit hlimit,
    hboth larger (by omega)]

omit [LT τ] [DecidableRel (α := τ) (· < ·)] [Add τ] in
private theorem enough_findPairs (hopen : s.store.isOpen = true)
    (hlimit : s.store.written.all.length * s.store.written.all.length ≤ limit.toNat) :
    Enough (fun limit => (s.findPairs threshold limit).1) limit := by
  intro larger hlarger
  have hlength : (Similarity.scoredPairs s.store.written.all).length ≤ limit.toNat :=
    (Similarity.length_upperTriangle_le _ _).trans hlimit
  have hlarger' : (Similarity.scoredPairs s.store.written.all).length ≤ larger.toNat := by omega
  dsimp only
  rw [findPairs_of_open hopen, findPairs_of_open hopen, Similarity.closest_exact,
    Similarity.closest_exact, Scored.best_of_length_le hlength, Scored.best_of_length_le hlarger']

end Limits

private def recordOf (id : String) (v : Vec ℝ) : Record Element (Vec ℝ) :=
  ⟨id, ⟨⟨"a.js", 1, id, none, none, none⟩, id⟩, v⟩

private noncomputable def mixedRecords : List (Record Element (Vec ℝ)) :=
  [recordOf "x" [1], recordOf "z" [], recordOf "w" [0, 1], recordOf "y" [1]]

private noncomputable def exactService : Service ℝ ℤ where
  store := Store.run (Store.empty 10) [(0, .putAll mixedRecords)]
  embedder := ⟨none, 100⟩
  ids := fun n => String.ofList (List.replicate n 'a')
  now := 0

private theorem cosine_one : Vec.cosine [1] [(1 : ℝ)] = 1 := by
  have hdot : Vec.dot [(1 : ℝ)] [1] = 1 := by simp [Vec.dot_eq_sum]
  have hnorm : Vec.norm [(1 : ℝ)] = 1 := by
    rw [Vec.norm, hdot]
    exact Real.sqrt_one
  have hupper : Scalar.lt (1 : ℝ) Scalar.one = false := decide_eq_false (lt_irrefl (1 : ℝ))
  have hlower : Scalar.lt Scalar.minusOne (1 : ℝ) = true :=
    decide_eq_true (neg_one_lt_zero.trans zero_lt_one)
  have hclamp : Vec.clamp (1 : ℝ) = 1 := by
    rw [Vec.clamp, hupper, if_neg Bool.false_ne_true]
    exact if_pos hlower
  rw [Vec.cosine_eq rfl, hnorm, hdot, if_neg (by norm_num), mul_one, div_one, hclamp]

/-- Two equal records among others of other lengths are told as a pair. -/
theorem pairs_iff_alike_mixed :
    let x := recordOf "x" [1]
    let y := recordOf "y" [1]
    exactService.store.written.all = mixedRecords ∧
      Enough (fun limit => (exactService.findPairs (1 / 2) limit).1) 16 ∧
      Enough (fun limit => (exactService.findSimilar "x" (1 / 2) limit).1) 4 ∧
      Enough (fun limit => (exactService.findSimilar "y" (1 / 2) limit).1) 4 ∧
      y ∈ Similarity.alikeRecords x (1 / 2) 4 mixedRecords ∧
      x ∈ Similarity.alikeRecords y (1 / 2) 4 mixedRecords ∧
      ∃ pairs, Similarity.closest (1 / 2) 16 mixedRecords = .ok pairs ∧
        ∃ p ∈ pairs, p.item = (x, y) ∨ p.item = (y, x) := by
  intro x y
  have hall : exactService.store.written.all = mixedRecords := rfl
  have hopen : exactService.store.isOpen = true := rfl
  have hx : x ∈ mixedRecords := .head _
  have hy : y ∈ mixedRecords := by simp [mixedRecords, y]
  have hpairs : Enough (fun limit => (exactService.findPairs (1 / 2) limit).1) 16 :=
    enough_findPairs hopen (by rw [hall]; decide)
  have hlikeX : Enough (fun limit => (exactService.findSimilar "x" (1 / 2) limit).1) 4 :=
    enough_findSimilar hopen hx (by rw [hall]; decide)
  have hlikeY : Enough (fun limit => (exactService.findSimilar "y" (1 / 2) limit).1) 4 :=
    enough_findSimilar hopen hy (by rw [hall]; decide)
  obtain ⟨pairs, hclosest, -, -, -, hpair, hboth⟩ :=
    (pairs_iff_alike (s := exactService) rfl (1 / 2)).2 x hx y hy 16 4 4 hpairs hlikeX hlikeY
  have hmem : y ∈ Similarity.alikeRecords x (1 / 2) 4 mixedRecords := by
    refine (Similarity.mem_alikeRecords_iff (by decide) rfl).mpr ⟨hy, by decide, ?_⟩
    have hcosine : Vec.cosine x.vector y.vector = 1 := cosine_one
    rw [hcosine]
    norm_num
  exact ⟨hall, hpairs, hlikeX, hlikeY, hmem, hboth.mp hmem, pairs, hclosest, hpair.mpr hmem⟩

end CodeTwins.Service
