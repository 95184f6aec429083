import CodeTwins.Proofs.Vector.Similarities

/-!
# Pairs and what is alike

The closest pairs are told from the matrix of all similarities, what is like a record by comparing it
with each other one. If numbers are exact and nothing is cut off, a pair is told if and only if each
of its records is told to be like the other.
-/
namespace CodeTwins

namespace Scored

variable {α β γ : Type} [Scalar α] {threshold : α} {limit larger : Int} {l : List (Scored α β)}

/-- A ranking goes by the scores alone. -/
theorem best_map (g : β → γ) (l : List (Scored α β)) :
    best threshold limit (l.map fun s => ⟨s.score, g s.item⟩) =
      (best threshold limit l).map fun s => ⟨s.score, g s.item⟩ := by
  have hfilter : atLeast threshold (l.map fun s => (⟨s.score, g s.item⟩ : Scored α γ)) =
      (atLeast threshold l).map fun s => ⟨s.score, g s.item⟩ := by
    rw [atLeast, List.filter_map]
    rfl
  have hsort : (ranked (atLeast threshold l)).map (fun s => (⟨s.score, g s.item⟩ : Scored α γ)) =
      ranked ((atLeast threshold l).map fun s => ⟨s.score, g s.item⟩) :=
    List.map_mergeSort fun s _ t _ => rfl
  rw [best, best, hfilter, ← hsort, List.map_take]

private theorem length_atLeast_le : (atLeast threshold l).length ≤ l.length :=
  List.length_filter_le _ _

theorem best_of_length_le (h : l.length ≤ limit.toNat) :
    best threshold limit l = ranked (atLeast threshold l) := by
  refine List.take_of_length_le ?_
  rw [ranked, List.length_mergeSort]
  exact length_atLeast_le.trans h

/-- With a limit that cuts nothing off, all items that reach the threshold are told. -/
theorem mem_best_iff (hlarger : l.length ≤ larger.toNat)
    (henough : (best threshold larger l).length = (best threshold limit l).length)
    {s : Scored α β} :
    s ∈ best threshold limit l ↔ s ∈ l ∧ Scalar.le threshold s.score = true := by
  have hall : best threshold limit l = ranked (atLeast threshold l) := by
    rw [best_of_length_le hlarger] at henough
    have hlength : (ranked (atLeast threshold l)).length ≤ limit.toNat := by
      rw [henough, best, List.length_take]
      exact Nat.min_le_left _ _
    exact List.take_of_length_le hlength
  rw [hall, ranked, List.mem_mergeSort, atLeast, List.mem_filter]

private theorem mem_best_iff_le {threshold : ℝ} {l : List (Scored ℝ β)}
    (hlarger : l.length ≤ larger.toNat)
    (henough : (best threshold larger l).length = (best threshold limit l).length)
    {s : Scored ℝ β} : s ∈ best threshold limit l ↔ s ∈ l ∧ threshold ≤ s.score := by
  rw [mem_best_iff hlarger henough]
  exact and_congr_right fun _ => decide_eq_true_iff

end Scored

namespace Similarity

open Store

section Triangle

variable {α β : Type} {f : β → β → α} {items : List β}

theorem upperTriangle_cons (x : β) :
    upperTriangle (x :: items) ((x :: items).map fun y => (x :: items).map (f y)) =
      items.map (fun y => ⟨f x y, (x, y)⟩) ++
        upperTriangle items (items.map fun y => items.map (f y)) := by
  have hrow : List.zipWith (fun score y => (⟨score, (x, y)⟩ : Scored α (β × β)))
      (items.map (f x)) items = items.map fun y => ⟨f x y, (x, y)⟩ := by
    rw [List.zipWith_map_left, List.zipWith_self]
  have hrows : (items.map fun y => (x :: items).map (f y)).map (·.drop 1) =
      items.map fun y => items.map (f y) := by
    simp [Function.comp_def]
  rw [List.map_cons, upperTriangle, hrows, List.map_cons, List.drop_one, List.tail_cons, hrow]

theorem length_upperTriangle_le (f : β → β → α) (items : List β) :
    (upperTriangle items (items.map fun x => items.map (f x))).length ≤
      items.length * items.length := by
  induction items with
  | nil => exact Nat.le_refl 0
  | cons x items ih =>
    rw [upperTriangle_cons, List.length_append, List.length_map, List.length_cons]
    nlinarith

/-- The triangle has each item with each later one. -/
theorem mem_upperTriangle_iff {p : Scored α (β × β)} :
    p ∈ upperTriangle items (items.map fun x => items.map (f x)) ↔
      p.score = f p.item.1 p.item.2 ∧ [p.item.1, p.item.2].Sublist items := by
  induction items with
  | nil => simp [upperTriangle]
  | cons x items ih =>
    rw [upperTriangle_cons, List.mem_append, ih, List.cons_sublist_cons', List.singleton_sublist,
      List.mem_map]
    constructor
    · rintro (⟨y, hy, rfl⟩ | ⟨hscore, hlater⟩)
      · exact ⟨rfl, .inr ⟨rfl, hy⟩⟩
      · exact ⟨hscore, .inl hlater⟩
    · rintro ⟨hscore, hlater | ⟨hfirst, hsecond⟩⟩
      · exact .inr ⟨hscore, hlater⟩
      · obtain ⟨score, first, second⟩ := p
        obtain rfl : first = x := hfirst
        obtain rfl : score = f first second := hscore
        exact .inl ⟨second, hsecond, rfl⟩

theorem pair_sublist_or {x y : β} (hx : x ∈ items) (hy : y ∈ items) (hne : x ≠ y) :
    [x, y].Sublist items ∨ [y, x].Sublist items := by
  induction items with
  | nil => cases hx
  | cons z items ih =>
    simp only [List.cons_sublist_cons', List.singleton_sublist]
    rcases List.mem_cons.mp hx with hxz | hx
    · have hy : y ∈ items := (List.mem_cons.mp hy).resolve_left fun hyz => hne (hxz.trans hyz.symm)
      exact .inl (.inr ⟨hxz, hy⟩)
    · rcases List.mem_cons.mp hy with hyz | hy
      · exact .inr (.inr ⟨hyz, hx⟩)
      · exact (ih hx hy).imp .inl .inl

end Triangle

section Records

variable {ε α : Type} [Scalar α]

/-- The records most like a record, which is not among them. -/
def alikeRecords (target : Record ε (Vec α)) (threshold : α) (limit : Int)
    (records : List (Record ε (Vec α))) : List (Record ε (Vec α)) :=
  (Scored.best threshold limit ((records.filter (·.id != target.id)).map fun r =>
    ⟨Vec.cosine target.vector r.vector, r⟩)).map (·.item)

theorem alike_eq_map (target : Record ε (Vec α)) (threshold : α) (limit : Int)
    (records : List (Record ε (Vec α))) :
    alike target threshold limit records =
      (alikeRecords target threshold limit records).map (·.element) := by
  have hscored : scoredAgainst target.vector (records.filter (·.id != target.id)) =
      ((records.filter (·.id != target.id)).map fun r =>
        (⟨Vec.cosine target.vector r.vector, r⟩ : Scored α (Record ε (Vec α)))).map fun s =>
          ⟨s.score, s.item.element⟩ := by
    rw [List.map_map]
    rfl
  rw [alike, nearest, hscored, Scored.best_map, alikeRecords, List.map_map, List.map_map]
  rfl

end Records

section Exact

variable {ε : Type} {threshold : ℝ} {limit larger : Int} {records : List (Record ε (Vec ℝ))}

/-- The scores of all pairs of records. -/
noncomputable def scoredPairs (records : List (Record ε (Vec ℝ))) :
    List (Scored ℝ (Record ε (Vec ℝ) × Record ε (Vec ℝ))) :=
  upperTriangle records (records.map fun x => records.map fun y => Vec.cosine x.vector y.vector)

theorem closest_exact (threshold : ℝ) (limit : Int) (records : List (Record ε (Vec ℝ))) :
    closest threshold limit records = .ok (Scored.best threshold limit (scoredPairs records)) := by
  unfold closest
  split
  case isTrue hfew =>
    have hnone : scoredPairs records = [] := by
      cases records with
      | nil => rfl
      | cons x rest =>
        have hrest : rest = [] := by
          rw [List.length_cons] at hfew
          exact List.eq_nil_of_length_eq_zero (by omega)
        rw [hrest]
        rfl
    rw [hnone]
    simp [Scored.best, Scored.ranked, Scored.atLeast]
  case isFalse =>
    rw [Vec.matrix_exact, List.map_map]
    simp only [List.map_map, Function.comp_def]
    rfl

theorem mem_alikeRecords_iff {x y : Record ε (Vec ℝ)}
    (hlarger : records.length ≤ larger.toNat)
    (henough : (alikeRecords x threshold larger records).length =
      (alikeRecords x threshold limit records).length) :
    y ∈ alikeRecords x threshold limit records ↔
      y ∈ records ∧ y.id ≠ x.id ∧ threshold ≤ Vec.cosine x.vector y.vector := by
  have hlength : ((records.filter (·.id != x.id)).map fun r =>
      (⟨Vec.cosine x.vector r.vector, r⟩ : Scored ℝ (Record ε (Vec ℝ)))).length ≤ larger.toNat := by
    rw [List.length_map]
    exact (List.length_filter_le _ _).trans hlarger
  rw [alikeRecords, alikeRecords, List.length_map, List.length_map] at henough
  rw [alikeRecords, List.mem_map]
  constructor
  · rintro ⟨s, hs, rfl⟩
    obtain ⟨hmem, hscore⟩ := (Scored.mem_best_iff_le hlength henough).mp hs
    obtain ⟨r, hr, rfl⟩ := List.mem_map.mp hmem
    obtain ⟨hrecord, hid⟩ := List.mem_filter.mp hr
    exact ⟨hrecord, by simpa using hid, hscore⟩
  · rintro ⟨hrecord, hid, hscore⟩
    have hmem : y ∈ records.filter (·.id != x.id) :=
      List.mem_filter.mpr ⟨hrecord, by simpa using hid⟩
    exact ⟨⟨Vec.cosine x.vector y.vector, y⟩,
      (Scored.mem_best_iff_le hlength henough).mpr ⟨List.mem_map_of_mem hmem, hscore⟩, rfl⟩

private theorem mem_bestPairs_iff (hlarger : records.length * records.length ≤ larger.toNat)
    (henough : (Scored.best threshold larger (scoredPairs records)).length =
      (Scored.best threshold limit (scoredPairs records)).length) {x y : Record ε (Vec ℝ)} :
    (∃ p ∈ Scored.best threshold limit (scoredPairs records), p.item = (x, y)) ↔
      [x, y].Sublist records ∧ threshold ≤ Vec.cosine x.vector y.vector := by
  have hlength : (scoredPairs records).length ≤ larger.toNat :=
    (length_upperTriangle_le _ records).trans hlarger
  constructor
  · rintro ⟨⟨score, item⟩, hp, rfl⟩
    obtain ⟨hmem, hscore⟩ := (Scored.mem_best_iff_le hlength henough).mp hp
    obtain ⟨hcosine, hsublist⟩ := mem_upperTriangle_iff.mp hmem
    rw [hcosine] at hscore
    exact ⟨hsublist, hscore⟩
  · rintro ⟨hsublist, hscore⟩
    have hmem := mem_upperTriangle_iff (f := fun a b => Vec.cosine a.vector b.vector)
      (p := ⟨Vec.cosine x.vector y.vector, (x, y)⟩) |>.mpr ⟨rfl, hsublist⟩
    exact ⟨_, (Scored.mem_best_iff_le hlength henough).mpr ⟨hmem, hscore⟩, rfl⟩

/-- Of records with distinct ids, the pairs that reach the threshold are told, one way or the
other. -/
theorem mem_closest_iff {pairs : List (Scored ℝ (Record ε (Vec ℝ) × Record ε (Vec ℝ)))}
    (hids : (records.map (·.id)).Nodup) (hlarger : records.length * records.length ≤ larger.toNat)
    (henough : (Scored.best threshold larger (scoredPairs records)).length =
      (Scored.best threshold limit (scoredPairs records)).length)
    (hpairs : closest threshold limit records = .ok pairs) {x y : Record ε (Vec ℝ)}
    (hx : x ∈ records) (hy : y ∈ records) :
    (∃ p ∈ pairs, p.item = (x, y) ∨ p.item = (y, x)) ↔
      x.id ≠ y.id ∧ threshold ≤ Vec.cosine x.vector y.vector := by
  have hbest := closest_exact threshold limit records
  obtain rfl : Scored.best threshold limit (scoredPairs records) = pairs :=
    Except.ok.inj (hbest.symm.trans hpairs)
  have hdistinct : ∀ {a b : Record ε (Vec ℝ)}, [a, b].Sublist records → a.id ≠ b.id := by
    intro a b hsublist
    have hpair := hids.sublist (hsublist.map (·.id))
    simpa using hpair
  constructor
  · rintro ⟨p, hp, hitem | hitem⟩
    · obtain ⟨hsublist, hscore⟩ := (mem_bestPairs_iff hlarger henough).mp ⟨p, hp, hitem⟩
      exact ⟨hdistinct hsublist, hscore⟩
    · obtain ⟨hsublist, hscore⟩ := (mem_bestPairs_iff hlarger henough).mp ⟨p, hp, hitem⟩
      exact ⟨(hdistinct hsublist).symm, Vec.cosine_comm y.vector x.vector ▸ hscore⟩
  · rintro ⟨hid, hscore⟩
    have hne : x ≠ y := fun heq => hid (congrArg (·.id) heq)
    rcases pair_sublist_or hx hy hne with hsublist | hsublist
    · obtain ⟨p, hp, hitem⟩ := (mem_bestPairs_iff hlarger henough).mpr ⟨hsublist, hscore⟩
      exact ⟨p, hp, .inl hitem⟩
    · have hscore' : threshold ≤ Vec.cosine y.vector x.vector := by
        rw [Vec.cosine_comm]
        exact hscore
      obtain ⟨p, hp, hitem⟩ := (mem_bestPairs_iff hlarger henough).mpr ⟨hsublist, hscore'⟩
      exact ⟨p, hp, .inr hitem⟩

end Exact

end Similarity

end CodeTwins
