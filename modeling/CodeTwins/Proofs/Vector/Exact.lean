import CodeTwins.Vector.Scalar
import Mathlib.Analysis.Real.Sqrt

/-!
# Exact numbers in vectors

Real numbers in the place of doubles: nothing is rounded, and a row of a matrix is left alone only if
its magnitude is zero. All of them are finite.
-/
namespace CodeTwins

open Classical in
noncomputable instance : Scalar ℝ where
  zero := 0
  one := 1
  minusOne := -1
  add := (· + ·)
  mul := (· * ·)
  div := (· / ·)
  sqrt := Real.sqrt
  ofNat n := n
  isZero x := x = 0
  lt x y := x < y
  le x y := x ≤ y
  isNegligible x := x = 0
  isNaN _ := false
  isInf _ := false

end CodeTwins
