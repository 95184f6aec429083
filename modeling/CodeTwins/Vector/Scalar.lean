/-!
# Numbers in vectors

What similarity asks of the numbers that vectors are made of. The program computes with doubles; the
laws of similarity are about any numbers of which they hold.
-/
namespace CodeTwins

/-- Numbers that vectors are made of. -/
class Scalar (α : Type) where
  zero : α
  one : α
  minusOne : α
  add : α → α → α
  mul : α → α → α
  div : α → α → α
  sqrt : α → α
  ofNat : Nat → α
  isZero : α → Bool
  lt : α → α → Bool
  le : α → α → Bool
  /-- Magnitudes that a row of a matrix is not divided by. -/
  isNegligible : α → Bool
  isNaN : α → Bool
  isInf : α → Bool

/-- Doubles. A row is left alone if its magnitude is below ten times the distance from one to the
next double. -/
instance : Scalar Float where
  zero := 0
  one := 1
  minusOne := -1
  add := (· + ·)
  mul := (· * ·)
  div := (· / ·)
  sqrt := Float.sqrt
  ofNat n := Float.ofNat n
  isZero x := x == 0
  lt x y := x < y
  le x y := x ≤ y
  isNegligible x := x < Float.ofBits 0x3CE4000000000000
  isNaN := Float.isNaN
  isInf := Float.isInf

abbrev Vec (α : Type) := List α

end CodeTwins
