import CodeTwins.Vector.Cosine

/-!
# Similarity of all pairs

All cosines among vectors at once. Vectors of one length are scaled to unit length, and the inner
products of these are put into the rows and columns of their places. Vectors of different lengths and
empty ones keep entry zero. Infinite numbers and values that are no numbers are refused.
-/
namespace CodeTwins.Vec

/-- Why the similarities of vectors cannot be computed. -/
inductive Unusable where
  | notANumber
  | infinite
deriving DecidableEq, Repr

def Unusable.message : Unusable → String
  | notANumber => "Input contains NaN."
  | infinite => "Input contains infinity or a value too large for dtype('float64')."

variable {α : Type}

/-- Values put into a list at their places, each by what was there before. -/
def updateAt {β γ : Type} (f : β → γ → β) (updates : List (Nat × γ)) (l : List β) : List β :=
  updates.foldl (fun l (i, x) => l.modify i (f · x)) l

/-- The matrix with the entries of a block in the rows and columns of some places. -/
def scatter (places : List Nat) (block rows : List (List α)) : List (List α) :=
  updateAt (fun row entries => updateAt (fun _ x => x) (places.zip entries) row)
    (places.zip block) rows

/-- The lengths that occur, in the order in which they first do, without zero. -/
def lengthsOf (vs : List (Vec α)) : List Nat :=
  (vs.map List.length).eraseDups.filter (· ≠ 0)

/-- The places of the vectors of a length. -/
def placesOf (n : Nat) (vs : List (Vec α)) : List Nat :=
  (vs.zipIdx.filter (·.1.length = n)).map (·.2)

variable [Scalar α]

/-- The vector divided by its magnitude, unless that is negligible. -/
def scaled (v : Vec α) : Vec α :=
  let n := norm v
  let divisor := if Scalar.isNegligible n then Scalar.one else n
  v.map (Scalar.div · divisor)

/-- The inner products of vectors of one length, each scaled to unit length. -/
def unitProducts (vs : List (Vec α)) : List (List α) :=
  let rows := vs.map scaled
  rows.map fun v => rows.map (dot v)

/-- The similarities of all vectors with all vectors, computed for each length on its own. -/
def similarities (vs : List (Vec α)) : List (List α) :=
  let zeros := List.replicate vs.length (List.replicate vs.length (Scalar.zero : α))
  let rows := (lengthsOf vs).foldl
    (fun rows n => scatter (placesOf n vs) (unitProducts (vs.filter (·.length = n))) rows) zeros
  rows.map (·.map clamp)

def faultOf (vs : List (Vec α)) : Option Unusable :=
  if vs.any (·.any Scalar.isNaN) then some .notANumber
  else if vs.any (·.any Scalar.isInf) then some .infinite
  else none

/-- The first fault of vectors, taken by length. -/
def firstFault (vs : List (Vec α)) : Option Unusable :=
  (lengthsOf vs).findSome? fun n => faultOf (vs.filter (·.length = n))

/-- The similarities of all vectors with all vectors, if all numbers are finite. -/
def matrix (vs : List (Vec α)) : Except Unusable (List (List α)) :=
  match firstFault vs with
  | some fault => .error fault
  | none => .ok (similarities vs)

end CodeTwins.Vec
