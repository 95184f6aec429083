import CodeTwins.Proofs.Similarity.Pairs
import Mathlib

/-!
# The ranking of all pairs

The closest pairs are the first ones in a list of all pairs that reach the threshold, the most similar
first. Doubles that are numbers are in a row, so the list is in order however many of its scores are
equal.
-/
namespace CodeTwins

section Doubles

open Float.Model
open Float.Model.UnpackedFloat (Sign)

/-- Whether a double is a number, be it infinite. -/
def isNumber : UnpackedFloat → Bool
  | .notANumber => false
  | _ => true

/-- Where a double stands among all that are numbers. -/
def place : UnpackedFloat → ℤ ×ₗ ℤ ×ₗ ℤ
  | .infinity .negative => toLex (-2, toLex (0, 0))
  | .finite .negative units exponent _ => toLex (-1, toLex (-exponent, -units))
  | .zero _ | .notANumber => toLex (0, toLex (0, 0))
  | .finite .positive units exponent _ => toLex (1, toLex (exponent, units))
  | .infinity .positive => toLex (2, toLex (0, 0))

private theorem isLE_compare_sign (s t : Sign) :
    (compare s t).isLE = true ↔ s = .negative ∨ t = .positive := by
  cases s <;> cases t <;> simp [compare]

private theorem isLE_compare_then (e e' : ℤ) (m m' : ℕ) :
    ((compare e e').then (compare m m')).isLE = true ↔ e < e' ∨ e = e' ∧ m ≤ m' := by
  rcases lt_trichotomy e e' with h | rfl | h
  · simp [compare_lt_iff_lt.mpr h, h]
  · simp [Nat.isLE_compare]
  · simp [compare_gt_iff_gt.mpr h, h.not_gt, h.ne']

private theorem isGE_compare_then (e e' : ℤ) (m m' : ℕ) :
    ((compare e e').then (compare m m')).isGE = true ↔ e' < e ∨ e = e' ∧ m' ≤ m := by
  rcases lt_trichotomy e e' with h | rfl | h
  · simp [compare_lt_iff_lt.mpr h, h.not_gt, h.ne]
  · simp [Nat.isGE_compare]
  · simp [compare_gt_iff_gt.mpr h, h]

private theorem le_iff_place_le (a b : UnpackedFloat) :
    a.le b = true ↔ isNumber a = true ∧ isNumber b = true ∧ place a ≤ place b := by
  rcases a with ⟨_ | _⟩ | _ | _ | ⟨_ | _⟩ <;> rcases b with ⟨_ | _⟩ | _ | _ | ⟨_ | _⟩ <;>
    simp [UnpackedFloat.le, UnpackedFloat.compare, isNumber, place, isLE_compare_sign,
      isLE_compare_then, isGE_compare_then, Prod.Lex.toLex_le_toLex]

/-- Doubles are compared by their places, and nothing is comparable to what is no number. -/
theorem scalar_le_iff (x y : Float) :
    Scalar.le x y = true ↔ isNumber x.toModel.unpack = true ∧ isNumber y.toModel.unpack = true ∧
      place x.toModel.unpack ≤ place y.toModel.unpack := by
  rw [← le_iff_place_le]
  change decide (Float.le x y = true) = true ↔ _
  rw [decide_eq_true_iff, Float.le, decide_eq_true_iff]
  rfl

end Doubles

namespace Scored

variable {β : Type} {threshold : Float} {l : List (Scored Float β)}

/-- The score of an item stands somewhere among all numbers. -/
def scorePlace (s : Scored Float β) : ℤ ×ₗ ℤ ×ₗ ℤ :=
  place s.score.toModel.unpack

theorem isNumber_of_mem_atLeast {s : Scored Float β} (h : s ∈ atLeast threshold l) :
    isNumber s.score.toModel.unpack = true :=
  ((scalar_le_iff _ _).mp (List.mem_filter.mp h).2).2.1

theorem ranked_eq (hl : ∀ s ∈ l, isNumber s.score.toModel.unpack = true) :
    ranked l = l.mergeSort fun s t => decide (t.scorePlace ≤ s.scorePlace) := by
  have hbefore : ∀ s ∈ l, ∀ t ∈ l, before s t = decide (t.scorePlace ≤ s.scorePlace) := by
    intro s hs t ht
    rw [Bool.eq_iff_iff, decide_eq_true_iff, before, scalar_le_iff]
    exact ⟨fun h => h.2.2, fun h => ⟨hl t ht, hl s hs, h⟩⟩
  have hsorted : (l.mergeSort before).map id =
      (l.map id).mergeSort fun s t => decide (t.scorePlace ≤ s.scorePlace) :=
    List.map_mergeSort hbefore
  rwa [List.map_id, List.map_id] at hsorted

private theorem ranked_perm (l : List (Scored Float β)) : (ranked l).Perm l :=
  List.mergeSort_perm l _

theorem places_trans (s t u : Scored Float β) (hst : decide (t.scorePlace ≤ s.scorePlace) = true)
    (htu : decide (u.scorePlace ≤ t.scorePlace) = true) :
    decide (u.scorePlace ≤ s.scorePlace) = true := by
  rw [decide_eq_true_iff] at *
  exact htu.trans hst

theorem places_total (s t : Scored Float β) :
    (decide (t.scorePlace ≤ s.scorePlace) || decide (s.scorePlace ≤ t.scorePlace)) = true := by
  rw [Bool.or_eq_true, decide_eq_true_iff, decide_eq_true_iff]
  exact le_total _ _

/-- In a ranking of numbers no score is followed by a larger one. -/
theorem pairwise_ranked (hl : ∀ s ∈ l, isNumber s.score.toModel.unpack = true) :
    (ranked l).Pairwise fun s t => Scalar.le t.score s.score = true := by
  have hsorted : (ranked l).Pairwise fun s t => decide (t.scorePlace ≤ s.scorePlace) = true := by
    rw [ranked_eq hl]
    exact List.pairwise_mergeSort places_trans places_total l
  refine hsorted.imp_of_mem fun hs ht h => ?_
  have hs := hl _ ((ranked_perm l).mem_iff.mp hs)
  have ht := hl _ ((ranked_perm l).mem_iff.mp ht)
  exact (scalar_le_iff _ _).mpr ⟨ht, hs, decide_eq_true_iff.mp h⟩

/-- What may stand before another item and did, still does. -/
theorem sublist_ranked (hl : ∀ s ∈ l, isNumber s.score.toModel.unpack = true)
    {s t : Scored Float β} (hst : [s, t].Sublist l) (h : Scalar.le t.score s.score = true) :
    [s, t].Sublist (ranked l) := by
  have hplaces := decide_eq_true ((scalar_le_iff _ _).mp h).2.2
  rw [ranked_eq hl]
  exact List.pair_sublist_mergeSort places_trans places_total hplaces hst

end Scored

namespace Similarity

open Store

variable {β ε : Type}

/-- Each item with each later one. -/
def eachLater : List β → List (β × β)
  | [] => []
  | x :: xs => xs.map (x, ·) ++ eachLater xs

/-- All pairs of records with their similarities. -/
def compared (records : List (Record ε (Vec Float))) :
    List (Scored Float (Record ε (Vec Float) × Record ε (Vec Float))) :=
  (eachLater records).map fun p => ⟨Vec.unitCosine p.1.vector p.2.vector, p⟩

/-- The pairs of records that reach a threshold, the most similar first. -/
def ranking (threshold : Float) (records : List (Record ε (Vec Float))) :
    List (Scored Float (Record ε (Vec Float) × Record ε (Vec Float))) :=
  Scored.ranked (Scored.atLeast threshold (compared records))

/-- The pairs are those that reach the threshold, the most similar first, and of equally similar ones
the one first whose records come first. -/
structure IsRanking (threshold : Float) (records : List (Record ε (Vec Float)))
    (pairs : List (Scored Float (Record ε (Vec Float) × Record ε (Vec Float)))) : Prop where
  perm : pairs.Perm (Scored.atLeast threshold (compared records))
  descending : pairs.Pairwise fun p q => Scalar.le q.score p.score = true
  stable : ∀ p q, [p, q].Sublist (Scored.atLeast threshold (compared records)) →
    Scalar.le q.score p.score = true → [p, q].Sublist pairs

theorem isRanking_ranking (threshold : Float) (records : List (Record ε (Vec Float))) :
    IsRanking threshold records (ranking threshold records) where
  perm := Scored.ranked_perm _
  descending := Scored.pairwise_ranked fun _ => Scored.isNumber_of_mem_atLeast
  stable _ _ hpq h := Scored.sublist_ranked (fun _ => Scored.isNumber_of_mem_atLeast) hpq h

private theorem upperTriangle_eq {α : Type} (f : β → β → α) (items : List β) :
    upperTriangle items (items.map fun x => items.map (f x)) =
      (eachLater items).map fun p => ⟨f p.1 p.2, p⟩ := by
  induction items with
  | nil => rfl
  | cons x items ih =>
    rw [upperTriangle_cons, ih, eachLater, List.map_append, List.map_map]
    rfl

/-- The closest pairs are the first ones of the ranking. -/
theorem closest_eq_take (threshold : Float) (limit : Int) {records : List (Record ε (Vec Float))}
    (hfinite : ∀ r ∈ records, Vec.IsFinite r.vector) :
    closest threshold limit records = .ok ((ranking threshold records).take limit.toNat) := by
  have hmatrix : Vec.matrix (records.map (·.vector)) =
      .ok (records.map fun x => records.map fun y => Vec.unitCosine x.vector y.vector) := by
    have hfault : Vec.firstFault (records.map (·.vector)) = none := by
      simpa [Vec.firstFault_eq_none_iff] using hfinite
    simp [Vec.matrix, hfault, Vec.similarities_eq, Function.comp_def]
  unfold closest
  split
  case isTrue hlength =>
    have hnone : eachLater records = [] := by
      cases records with
      | nil => rfl
      | cons r records =>
        obtain rfl : records = [] := by simpa using hlength
        rfl
    simp [ranking, compared, hnone, Scored.atLeast, Scored.ranked]
  case isFalse =>
    rw [hmatrix, Except.map, closestOf, Scored.best, upperTriangle_eq]
    rfl

end Similarity

end CodeTwins
