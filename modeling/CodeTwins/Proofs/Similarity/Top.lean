import CodeTwins.Proofs.Similarity.Ranking
import Mathlib

/-!
# The best of a ranking

What is told of scored items is the top of their ranking: as many as the limit allows, and nothing
left out ranks before what is told. With a higher threshold or a lower limit, what is told is the
first part of what was told before.
-/
namespace CodeTwins

section Sorting

variable {β : Type} {le : β → β → Bool} {l : List β}

private theorem not_pair_sublist_swap (hl : l.Nodup) {a b : β} (hab : [a, b].Sublist l) :
    ¬ [b, a].Sublist l := by
  induction l with
  | nil => cases hab
  | cons x l ih =>
    obtain ⟨hx, hnodup⟩ := List.nodup_cons.mp hl
    rw [List.cons_sublist_cons', List.singleton_sublist] at hab ⊢
    rintro (hba | ⟨rfl, ha⟩)
    · rcases hab with hab | ⟨rfl, -⟩
      · exact ih hnodup hab hba
      · exact hx (hba.subset (by simp))
    · rcases hab with hab | ⟨rfl, -⟩
      · exact hx (hab.subset (by simp))
      · exact hx ha

private theorem takeWhile_append_eq {p : β → Bool} {first rest : List β}
    (hfirst : ∀ b ∈ first, p b = true) (hrest : ∀ b ∈ rest, p b = false) :
    (first ++ rest).takeWhile p = first := by
  rw [List.takeWhile_append_of_pos hfirst]
  cases rest with
  | nil => simp
  | cons b rest => simp [hrest b (.head _)]

/-- To sort and then to pick is to pick and then to sort. -/
theorem filter_mergeSort (htrans : ∀ a b c, le a b = true → le b c = true → le a c = true)
    (htotal : ∀ a b, (le a b || le b a) = true) (p : β → Bool) (l : List β) :
    (l.mergeSort le).filter p = (l.filter p).mergeSort le := by
  induction l with
  | nil => simp
  | cons a l ih =>
    obtain ⟨before, after, hsorted, hrest, hbefore⟩ := List.mergeSort_cons htrans htotal a l
    rw [hrest, List.filter_append] at ih
    cases ha : p a with
    | false => simp [hsorted, ha, ih]
    | true =>
      obtain ⟨before', after', hsorted', hrest', hbefore'⟩ :=
        List.mergeSort_cons htrans htotal a (l.filter p)
      -- both sorts put the item behind all that may not stand after it
      have hafter : ∀ {first rest : List β} {l : List β}, (a :: l).mergeSort le = first ++ a :: rest →
          ∀ b ∈ rest, le a b = true := by
        intro first rest l heq
        have hpairwise := List.pairwise_mergeSort htrans htotal (a :: l)
        rw [heq] at hpairwise
        exact (List.pairwise_cons.mp (List.pairwise_append.mp hpairwise).2.1).1
      have hsame : before' ++ after' = before.filter p ++ after.filter p := hrest'.symm.trans ih.symm
      have hfirst : before' = before.filter p := by
        have hpart : (before' ++ after').takeWhile (fun b => !le a b) = before' :=
          takeWhile_append_eq hbefore' fun b hb => by simp [hafter hsorted' b hb]
        have hpart' : (before.filter p ++ after.filter p).takeWhile (fun b => !le a b) =
            before.filter p :=
          takeWhile_append_eq (fun b hb => hbefore b (List.mem_filter.mp hb).1)
            fun b hb => by simp [hafter hsorted b (List.mem_filter.mp hb).1]
        rw [← hpart, hsame, hpart']
      subst hfirst
      rw [List.append_cancel_left hsame] at hsorted'
      simp [hsorted, ha, hsorted']

/-- What is picked from a list stands at its start if nothing else stands before it. -/
theorem filter_eq_takeWhile {p : β → Bool} (h : l.Pairwise fun a b => p b = true → p a = true) :
    l.filter p = l.takeWhile p := by
  induction l with
  | nil => rfl
  | cons a l ih =>
    obtain ⟨ha, hl⟩ := List.pairwise_cons.mp h
    cases hp : p a with
    | true => simp [hp, ih hl]
    | false =>
      have hnone : l.filter p = [] := by
        rw [List.filter_eq_nil_iff]
        exact fun b hb hpb => by simp [ha b hb hpb] at hp
      simp [hp, hnone]

end Sorting

namespace Scored

section Monotone

variable {β : Type} {threshold higher : Float} {limit lower : Int} {l : List (Scored Float β)}

private theorem scalar_le_iff_le {x y : Float} : Scalar.le x y = true ↔ x ≤ y :=
  decide_eq_true_iff

private theorem scalar_le_trans {x y z : Float} (hxy : Scalar.le x y = true)
    (hyz : Scalar.le y z = true) : Scalar.le x z = true := by
  obtain ⟨hx, -, hplace⟩ := (scalar_le_iff x y).mp hxy
  obtain ⟨-, hz, hplace'⟩ := (scalar_le_iff y z).mp hyz
  exact (scalar_le_iff x z).mpr ⟨hx, hz, hplace.trans hplace'⟩

private theorem atLeast_of_le (h : threshold ≤ higher) (l : List (Scored Float β)) :
    atLeast higher l = (atLeast threshold l).filter fun s => Scalar.le higher s.score := by
  rw [atLeast, atLeast, List.filter_filter]
  refine List.filter_congr fun s _ => ?_
  rw [Bool.eq_iff_iff, Bool.and_eq_true, iff_self_and]
  exact scalar_le_trans (scalar_le_iff_le.mpr h)

/-- The ranking for a higher threshold is the first part of the ranking for a lower one. -/
theorem ranked_atLeast_of_le (h : threshold ≤ higher) (l : List (Scored Float β)) :
    ranked (atLeast higher l) =
      (ranked (atLeast threshold l)).takeWhile fun s => Scalar.le higher s.score := by
  have hnumbers : ∀ s ∈ atLeast threshold l, isNumber s.score.toModel.unpack = true :=
    fun s => isNumber_of_mem_atLeast
  have hdescending := pairwise_ranked hnumbers
  calc ranked (atLeast higher l)
      = ranked ((atLeast threshold l).filter fun s => Scalar.le higher s.score) := by
        rw [atLeast_of_le h]
    _ = (ranked (atLeast threshold l)).filter fun s => Scalar.le higher s.score := by
        rw [ranked_eq hnumbers, ranked_eq fun s hs => hnumbers s (List.mem_filter.mp hs).1,
          filter_mergeSort places_trans places_total]
    _ = (ranked (atLeast threshold l)).takeWhile fun s => Scalar.le higher s.score :=
        filter_eq_takeWhile (hdescending.imp fun hst ht => scalar_le_trans ht hst)

/-- With a higher threshold and a lower limit, the best items are the first ones of those before
that reach the threshold. -/
theorem best_of_le (hthreshold : threshold ≤ higher) (hlimit : lower ≤ limit)
    (l : List (Scored Float β)) :
    best higher lower l =
      ((best threshold limit l).takeWhile fun s => Scalar.le higher s.score).take lower.toNat := by
  rw [best, best, ranked_atLeast_of_le hthreshold, ← List.take_takeWhile, List.take_take]
  congr 1
  omega

end Monotone

section Places

variable {β ι : Type} {score : ι → Float} {earlier : ι → ι → Prop} {threshold : Float} {limit : Int}
  {places : List ι} {candidates : Finset ι} {i j : ι}

/-- The places whose scores reach a threshold. -/
def reaching (score : ι → Float) (threshold : Float) (places : List ι) : List ι :=
  places.filter fun i => Scalar.le threshold (score i)

/-- The places whose scores reach a threshold, the best first. -/
def rankedPlaces (score : ι → Float) (threshold : Float) (places : List ι) : List ι :=
  (reaching score threshold places).mergeSort fun i j => Scalar.le (score j) (score i)

private theorem rankedPlaces_perm : (rankedPlaces score threshold places).Perm
    (reaching score threshold places) :=
  List.mergeSort_perm _ _

private theorem nodup_rankedPlaces (hnodup : places.Nodup) :
    (rankedPlaces score threshold places).Nodup :=
  rankedPlaces_perm.nodup_iff.mpr (hnodup.filter _)

private theorem ranked_map (score : ι → Float) (item : ι → β) (l : List ι) :
    ranked (l.map fun i => ⟨score i, item i⟩) =
      (l.mergeSort fun i j => Scalar.le (score j) (score i)).map fun i => ⟨score i, item i⟩ := by
  rw [ranked]
  exact (List.map_mergeSort (f := fun i => (⟨score i, item i⟩ : Scored Float β))
    fun i _ j _ => rfl).symm

/-- The best of items are those at the best places. -/
theorem best_places (score : ι → Float) (item : ι → β) (threshold : Float) (limit : Int)
    (places : List ι) :
    best threshold limit (places.map fun i => ⟨score i, item i⟩) =
      ((rankedPlaces score threshold places).take limit.toNat).map fun i => ⟨score i, item i⟩ := by
  have hreaching : atLeast threshold (places.map fun i => (⟨score i, item i⟩ : Scored Float β)) =
      (reaching score threshold places).map fun i => ⟨score i, item i⟩ := by
    rw [atLeast, List.filter_map]
    rfl
  rw [best, hreaching, ranked_map, List.map_take]
  rfl

private theorem isNumber_of_mem_reaching {s : Scored Float ι}
    (hs : s ∈ (reaching score threshold places).map fun i => ⟨score i, i⟩) :
    isNumber s.score.toModel.unpack = true := by
  obtain ⟨i, hi, rfl⟩ := List.mem_map.mp hs
  exact ((scalar_le_iff _ _).mp (List.mem_filter.mp hi).2).2.1

private theorem le_of_sublist_rankedPlaces
    (h : [i, j].Sublist (rankedPlaces score threshold places)) :
    Scalar.le (score j) (score i) = true := by
  have hranked : (ranked ((reaching score threshold places).map fun i => ⟨score i, i⟩)).Pairwise
      fun s t => Scalar.le t.score s.score = true :=
    pairwise_ranked fun _ => isNumber_of_mem_reaching
  rw [ranked_map, List.pairwise_map] at hranked
  exact List.pairwise_iff_forall_sublist.mp hranked h

private theorem sublist_rankedPlaces (h : [i, j].Sublist (reaching score threshold places))
    (hle : Scalar.le (score j) (score i) = true) :
    [i, j].Sublist (rankedPlaces score threshold places) := by
  have hranked := sublist_ranked (fun _ => isNumber_of_mem_reaching)
    (h.map fun i => (⟨score i, i⟩ : Scored Float ι)) hle
  rw [ranked_map] at hranked
  have hitem : (fun s : Scored Float ι => s.item) ∘ (fun i => ⟨score i, i⟩) = id := rfl
  have hitems := hranked.map (·.item)
  rwa [List.map_map, hitem, List.map_id] at hitems

/-- One place ranks before another: its score is no smaller, and if no larger either, it is the
earlier one. -/
def RanksBefore (score : ι → Float) (earlier : ι → ι → Prop) (i j : ι) : Prop :=
  score j ≤ score i ∧ (score i ≤ score j → earlier i j)

private theorem pairwise_rankedPlaces (hplaces : places.Pairwise earlier) (hnodup : places.Nodup) :
    (rankedPlaces score threshold places).Pairwise (RanksBefore score earlier) := by
  have hranked : (rankedPlaces score threshold places).Nodup := nodup_rankedPlaces hnodup
  refine List.pairwise_iff_forall_sublist.mpr fun {i j} hij => ?_
  refine ⟨scalar_le_iff_le.mp (le_of_sublist_rankedPlaces hij), fun hle => ?_⟩
  have hne : i ≠ j := by simpa using hranked.sublist hij
  have hmem : ∀ k ∈ [i, j], k ∈ reaching score threshold places :=
    fun k hk => rankedPlaces_perm.mem_iff.mp (hij.subset hk)
  rcases Similarity.pair_sublist_or (hmem i (by simp)) (hmem j (by simp)) hne with hsame | hswapped
  · exact List.pairwise_iff_forall_sublist.mp (hplaces.filter _) hsame
  · exact absurd (sublist_rankedPlaces hswapped (scalar_le_iff_le.mpr hle))
      (not_pair_sublist_swap hranked hij)

/-- What is told of candidates: as many different ones as a limit allows, in their ranking, and each
of them ranks before all that are left out. -/
structure IsTop (score : ι → Float) (earlier : ι → ι → Prop) (candidates : Finset ι) (limit : Int)
    (told : List ι) : Prop where
  length : (told.length : Int) = min (max limit 0) candidates.card
  nodup : told.Nodup
  subset : ∀ i ∈ told, i ∈ candidates
  ordered : told.Pairwise (RanksBefore score earlier)
  best : ∀ i ∈ told, ∀ j ∈ candidates, j ∉ told → RanksBefore score earlier i j

theorem isTop_take (hplaces : places.Pairwise earlier) (hnodup : places.Nodup)
    (hcandidates : ∀ i, i ∈ candidates ↔ i ∈ places ∧ threshold ≤ score i) (limit : Int) :
    IsTop score earlier candidates limit
      ((rankedPlaces score threshold places).take limit.toNat) := by
  have hranked : (rankedPlaces score threshold places).Nodup := nodup_rankedPlaces hnodup
  have hmem : ∀ i, i ∈ candidates ↔ i ∈ rankedPlaces score threshold places := by
    intro i
    rw [hcandidates, rankedPlaces_perm.mem_iff, reaching, List.mem_filter, scalar_le_iff_le]
  have hordered : (rankedPlaces score threshold places).Pairwise (RanksBefore score earlier) :=
    pairwise_rankedPlaces hplaces hnodup
  have hsplit := List.take_append_drop limit.toNat (rankedPlaces score threshold places)
  have hcard : candidates.card = (rankedPlaces score threshold places).length := by
    classical
    rw [← List.toFinset_card_of_nodup hranked]
    exact congrArg Finset.card (Finset.ext fun i => (hmem i).trans List.mem_toFinset.symm)
  constructor
  · rw [List.length_take, hcard]
    omega
  · exact hranked.sublist (List.take_sublist _ _)
  · exact fun i hi => (hmem i).mpr (List.mem_of_mem_take hi)
  · exact hordered.sublist (List.take_sublist _ _)
  · intro i hi j hj hleft
    rw [← hsplit] at hordered
    have hdropped : j ∈ (rankedPlaces score threshold places).drop limit.toNat := by
      have hj := (hmem j).mp hj
      rw [← hsplit] at hj
      exact (List.mem_append.mp hj).resolve_left hleft
    exact (List.pairwise_append.mp hordered).2.2 i hi j hdropped

/-- A limit that is not below their number leaves all candidates. -/
theorem IsTop.mem_iff (h : IsTop score earlier candidates limit places)
    (hlimit : (candidates.card : Int) ≤ limit) : i ∈ places ↔ i ∈ candidates := by
  classical
  have hsubset : places.toFinset ⊆ candidates :=
    fun j hj => h.subset j (List.mem_toFinset.mp hj)
  have hcard : candidates.card ≤ places.toFinset.card := by
    have hlength := h.length
    rw [List.toFinset_card_of_nodup h.nodup]
    omega
  rw [← Finset.eq_of_subset_of_card_le hsubset hcard, List.mem_toFinset]

end Places

end Scored

namespace Similarity

open Store

section Positions

theorem map_finRange {β γ : Type} (f : β → γ) (l : List β) :
    (List.finRange l.length).map (fun i => f l[i]) = l.map f := by
  rw [← List.ofFn_eq_map]
  exact List.ofFn_getElem_eq_map l f

theorem pairwise_finRange (n : Nat) : (List.finRange n).Pairwise (· < ·) :=
  (List.sortedLT_finRange n).pairwise

private theorem filter_eq_map_finRange {β : Type} (p : β → Bool) (l : List β) :
    l.filter p = ((List.finRange l.length).filter fun i => p l[i]).map fun i => l[i] := by
  have hl := map_finRange id l
  rw [List.map_id] at hl
  conv_lhs => rw [← hl]
  exact List.filter_map

end Positions

section Pairs

variable {β γ : Type}

private theorem eachLater_map (f : β → γ) (l : List β) :
    eachLater (l.map f) = (eachLater l).map fun p => (f p.1, f p.2) := by
  induction l with
  | nil => rfl
  | cons x l ih => simp [eachLater, ih]

variable [Preorder β] {l : List β}

theorem mem_eachLater_iff (hl : l.Pairwise (· < ·)) {i j : β} :
    (i, j) ∈ eachLater l ↔ i ∈ l ∧ j ∈ l ∧ i < j := by
  induction l with
  | nil => simp [eachLater]
  | cons x l ih =>
    obtain ⟨hx, hl⟩ := List.pairwise_cons.mp hl
    rw [eachLater, List.mem_append, ih hl, List.mem_map]
    constructor
    · rintro (⟨y, hy, heq⟩ | ⟨hi, hj, hij⟩)
      · obtain ⟨rfl, rfl⟩ := Prod.mk.inj heq
        exact ⟨.head _, .tail _ hy, hx _ hy⟩
      · exact ⟨.tail _ hi, .tail _ hj, hij⟩
    · rintro ⟨hi, hj, hij⟩
      rcases List.mem_cons.mp hi with rfl | hi' <;> rcases List.mem_cons.mp hj with rfl | hj'
      · exact absurd hij (lt_irrefl _)
      · exact .inl ⟨j, hj', rfl⟩
      · exact absurd (hij.trans (hx i hi')) (lt_irrefl _)
      · exact .inr ⟨hi', hj', hij⟩

theorem pairwise_eachLater (hl : l.Pairwise (· < ·)) :
    (eachLater l).Pairwise (Prod.Lex (· < ·) (· < ·)) := by
  induction l with
  | nil => exact .nil
  | cons x l ih =>
    obtain ⟨hx, hl⟩ := List.pairwise_cons.mp hl
    rw [eachLater, List.pairwise_append]
    refine ⟨List.pairwise_map.mpr (hl.imp fun h => .right _ h), ih hl, ?_⟩
    intro p hp q hq
    obtain ⟨y, -, rfl⟩ := List.mem_map.mp hp
    exact .left _ _ (hx _ ((mem_eachLater_iff hl).mp hq).1)

theorem nodup_eachLater (hl : l.Pairwise (· < ·)) : (eachLater l).Nodup := by
  refine (pairwise_eachLater hl).imp ?_
  rintro p q hlex rfl
  rcases Prod.lex_def.mp hlex with h | ⟨-, h⟩ <;> exact lt_irrefl _ h

end Pairs

section Records

variable {ε : Type} {threshold higher : Float} {limit lower : Int}
  {records : List (Record ε (Vec Float))}

/-- The records most like a record are those at the best positions, its own left out. -/
theorem alikeRecords_eq_map (target : Record ε (Vec Float)) (threshold : Float) (limit : Int)
    (records : List (Record ε (Vec Float))) :
    alikeRecords target threshold limit records =
      ((Scored.rankedPlaces (fun i : Fin records.length => Vec.cosine target.vector records[i].vector)
        threshold ((List.finRange records.length).filter fun i => records[i].id != target.id)).take
          limit.toNat).map fun i => records[i] := by
  have hbest := Scored.best_places
    (fun i : Fin records.length => Vec.cosine target.vector records[i].vector)
    (fun i => records[i]) threshold limit
    ((List.finRange records.length).filter fun i => records[i].id != target.id)
  rw [alikeRecords, filter_eq_map_finRange, List.map_map]
  exact (congrArg (·.map (·.item)) hbest).trans List.map_map

/-- With a higher threshold and a lower limit, fewer of the records most like a record are told. -/
theorem alikeRecords_of_le (hthreshold : threshold ≤ higher) (hlimit : lower ≤ limit)
    (target : Record ε (Vec Float)) (records : List (Record ε (Vec Float))) :
    alikeRecords target higher lower records =
      ((alikeRecords target threshold limit records).takeWhile fun r =>
        higher ≤ Vec.cosine target.vector r.vector).take lower.toNat := by
  have hitems : (fun s : Scored Float (Record ε (Vec Float)) => s.item) ∘
      (fun r => ⟨Vec.cosine target.vector r.vector, r⟩) = id := rfl
  rw [alikeRecords, alikeRecords, Scored.best_of_le hthreshold hlimit, Scored.best_places,
    List.takeWhile_map, List.map_take, List.map_map, List.map_map, hitems, List.map_id, List.map_id]
  rfl

/-- The pairs of records that are told are those at the best pairs of positions. -/
theorem closest_eq_map (threshold : Float) (limit : Int)
    (hfinite : ∀ r ∈ records, Vec.IsFinite r.vector) :
    closest threshold limit records = .ok (((Scored.rankedPlaces
      (fun p : Fin records.length × Fin records.length =>
        Vec.unitCosine records[p.1].vector records[p.2].vector)
      threshold (eachLater (List.finRange records.length))).take limit.toNat).map fun p =>
        ⟨Vec.unitCosine records[p.1].vector records[p.2].vector, (records[p.1], records[p.2])⟩) := by
  have hrecords := map_finRange (fun r => r) records
  have hpairs := eachLater_map (fun i : Fin records.length => records[i]) (List.finRange _)
  rw [hrecords, List.map_id'] at hpairs
  have hcompared : compared records = (eachLater (List.finRange records.length)).map fun p =>
      ⟨Vec.unitCosine records[p.1].vector records[p.2].vector, (records[p.1], records[p.2])⟩ := by
    rw [compared, hpairs, List.map_map]
    rfl
  rw [closest_eq_take threshold limit hfinite, ranking, hcompared]
  exact congrArg Except.ok (Scored.best_places _ _ threshold limit _)

theorem closest_of_le (hthreshold : threshold ≤ higher) (hlimit : lower ≤ limit)
    (hfinite : ∀ r ∈ records, Vec.IsFinite r.vector) :
    ∃ pairs, closest threshold limit records = .ok pairs ∧
      closest higher lower records =
        .ok ((pairs.takeWhile fun p => higher ≤ p.score).take lower.toNat) := by
  refine ⟨_, closest_eq_take threshold limit hfinite, ?_⟩
  rw [closest_eq_take higher lower hfinite]
  exact congrArg Except.ok (Scored.best_of_le hthreshold hlimit (compared records))

end Records

end Similarity

end CodeTwins
