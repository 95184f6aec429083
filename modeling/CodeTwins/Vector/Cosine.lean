import CodeTwins.Vector.Scalar

/-!
# Cosine similarity

The cosine of the angle between two vectors, kept within -1 and 1. Vectors of different lengths and
vectors without magnitude have similarity zero.
-/
namespace CodeTwins.Vec

variable {α : Type} [Scalar α]

/-- The sum of numbers, from left to right. -/
def sum (v : Vec α) : α :=
  v.foldl Scalar.add Scalar.zero

def dot (v w : Vec α) : α :=
  sum (List.zipWith Scalar.mul v w)

def norm (v : Vec α) : α :=
  Scalar.sqrt (dot v v)

/-- A number kept within -1 and 1. One that is not below 1 becomes 1. -/
def clamp (x : α) : α :=
  let y := if Scalar.lt x Scalar.one then x else Scalar.one
  if Scalar.lt Scalar.minusOne y then y else Scalar.minusOne

def cosine (v w : Vec α) : α :=
  if v.length ≠ w.length then Scalar.zero
  else if Scalar.isZero (norm v) || Scalar.isZero (norm w) then Scalar.zero
  else clamp (Scalar.div (dot v w) (Scalar.mul (norm v) (norm w)))

end CodeTwins.Vec
