/-!
# Doubles as exact numbers

A finite double is a natural number of units times a power of two. This module takes a double apart
and finds the double nearest to a decimal number.
-/
namespace CodeTwins.Decimal

/-- What a double stands for, the sign left out. -/
inductive Magnitude where
  /-- `units * 2 ^ exponent` -/
  | finite (units : Nat) (exponent : Int)
  | infinite
  | notANumber
deriving DecidableEq, Repr

def isNegative (x : Float) : Bool :=
  x.toBits >>> 63 == 1

def magnitude (x : Float) : Magnitude :=
  let bits := x.toBits.toNat
  let biased : Nat := bits / 0x10000000000000 % 0x800
  let fraction : Nat := bits % 0x10000000000000
  if biased = 0x7FF then (if fraction = 0 then .infinite else .notANumber)
  else if biased = 0 then .finite fraction (-1074)
  else .finite (0x10000000000000 + fraction) ((biased : Int) - 1075)

def scaled (n base : Nat) (e : Int) : Nat × Nat :=
  if 0 ≤ e then (n * Nat.pow base e.toNat, 1) else (n, Nat.pow base (-e).toNat)

/-- The number of decimal digits of a natural number; zero has one. -/
def digitCount (n : Nat) : Nat :=
  (Nat.toDigits 10 n).length

def infinity (negative : Bool) : Float :=
  if negative then Float.ofBits 0xFFF0000000000000 else Float.ofBits 0x7FF0000000000000

/-- The value that is no number. -/
def notANumber : Float :=
  Float.ofBits 0x7FF8000000000000

/-- The double nearest to `± coefficient * 10 ^ exponent`. Far too large a number is infinite and far
too small a one is zero. -/
def nearest (negative : Bool) (coefficient : Nat) (exponent : Int) : Float :=
  let size := (digitCount coefficient : Int) + exponent
  let x :=
    if coefficient = 0 || size < -400 then Float.ofBits 0
    else if 400 < size then infinity false
    else if 0 ≤ exponent then Float.ofScientific (coefficient * Nat.pow 10 exponent.toNat) false 0
    else Float.ofScientific coefficient true (-exponent).toNat
  if negative then -x else x

def ofInt (n : Int) : Float :=
  nearest (n < 0) n.natAbs 0

/-- The integer that is left of a finite double when its fraction is dropped. -/
def truncate? (x : Float) : Option Int :=
  match magnitude x with
  | .finite units exponent =>
    let (num, den) := scaled units 2 exponent
    some (if isNegative x then -((num / den : Nat) : Int) else (num / den : Nat))
  | _ => none

def isIntegral (x : Float) : Bool :=
  match magnitude x with
  | .finite units exponent =>
    let (num, den) := scaled units 2 exponent
    num % den == 0
  | _ => false

end CodeTwins.Decimal
