import CodeTwins.Ranking
import CodeTwins.Store.Tables
import CodeTwins.Vector.Matrix

/-!
# Similar records

What is like a record, what is like a vector, and which records are like each other, among all that a
store holds. Every question goes through all records.
-/
namespace CodeTwins.Similarity

open Store

variable {ε α : Type} [Scalar α]

def scoredAgainst (v : Vec α) (records : List (Record ε (Vec α))) : List (Scored α ε) :=
  records.map fun r => ⟨Vec.cosine v r.vector, r.element⟩

def nearest (v : Vec α) (threshold : α) (limit : Int) (records : List (Record ε (Vec α))) :
    List (Scored α ε) :=
  Scored.best threshold limit (scoredAgainst v records)

/-- The elements most like a record, which is not among them. -/
def alike (target : Record ε (Vec α)) (threshold : α) (limit : Int)
    (records : List (Record ε (Vec α))) : List ε :=
  (nearest target.vector threshold limit (records.filter (·.id != target.id))).map (·.item)

/-- Each item with each later one, scored by the entries of a matrix above its diagonal. -/
def upperTriangle {β : Type} : List β → List (List α) → List (Scored α (β × β))
  | x :: xs, row :: rows =>
    List.zipWith (fun score y => ⟨score, (x, y)⟩) (row.drop 1) xs ++
      upperTriangle xs (rows.map (·.drop 1))
  | _, _ => []

/-- The pairs of items that are most alike, given the matrix of their similarities. -/
def closestOf {β : Type} (items : List β) (rows : List (List α)) (threshold : α) (limit : Int) :
    List (Scored α (β × β)) :=
  Scored.best threshold limit (upperTriangle items rows)

/-- The pairs of records that are most alike. A single record is in no pair. -/
def closest (threshold : α) (limit : Int) (records : List (Record ε (Vec α))) :
    Except Vec.Unusable (List (Scored α (Record ε (Vec α) × Record ε (Vec α)))) :=
  if records.length < 2 then .ok []
  else (Vec.matrix (records.map (·.vector))).map fun rows => closestOf records rows threshold limit

end CodeTwins.Similarity
