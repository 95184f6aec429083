import CodeTwins.Vector.Scalar

/-!
# Mean of vectors

The mean of vectors of one length, component by component: the sum from the first vector to the
last, divided by their number.
-/
namespace CodeTwins.Vec

variable {α : Type} [Scalar α]

/-- The mean of the vectors; a component that is missing in one of them is missing in the mean. -/
def mean : List (Vec α) → Vec α
  | [] => []
  | v :: vs =>
    let zeros := v.map fun _ => (Scalar.zero : α)
    let total := (v :: vs).foldl (List.zipWith Scalar.add) zeros
    total.map (Scalar.div · (Scalar.ofNat (vs.length + 1)))

/-- The lengths that occur, each once and in increasing order. -/
def dimensions (vs : List (Vec α)) : List Nat :=
  ((vs.map List.length).eraseDups).mergeSort (· ≤ ·)

/-- The mean of vectors, or the lengths that occur if there are several. -/
def mean? (vs : List (Vec α)) : Except (List Nat) (Vec α) :=
  if (dimensions vs).length ≤ 1 then .ok (mean vs) else .error (dimensions vs)

end CodeTwins.Vec
