import CodeTwins.Decimal.Double

/-!
# Shortest decimal text of a double

A finite double is written with the fewest digits that read back as the same double, and among those
with the nearest. Magnitudes from 10^-4 to below 10^16 are written positionally, the others with an
exponent of at least two digits.
-/
namespace CodeTwins.Decimal

/-- The positive reals that round to a double, over a common denominator: from `low` to `high`, the
ends included when `closed`, around `value`. -/
structure Interval where
  low : Nat
  value : Nat
  high : Nat
  den : Nat
  closed : Bool

/-- The interval of the double `units * 2 ^ exponent`. Below a power of two it is half as wide. -/
def intervalOf (units : Nat) (exponent : Int) : Interval :=
  let below := if units = 0x10000000000000 ∧ -1074 < exponent then 1 else 2
  let (num, den) := scaled 1 2 (exponent - 2)
  ⟨(4 * units - below) * num, 4 * units * num, (4 * units + 2) * num, den, units % 2 = 0⟩

def Interval.contains (i : Interval) (n : Nat) (e : Int) : Bool :=
  let (num, den) := scaled n 10 e
  let x := num * i.den
  if i.closed then i.low * den ≤ x && x ≤ i.high * den
  else i.low * den < x && x < i.high * den

def leadingExponent (num den : Nat) : Int :=
  let guess : Int := (digitCount num : Int) - digitCount den
  let (n, d) := scaled den 10 guess
  if n ≤ num * d then guess else guess - 1

/-- The point of the grid of multiples of `10 ^ e` that is nearest to the value among those in the
interval, if there is one. -/
def Interval.pointOn (i : Interval) (e : Int) : Option Nat :=
  let (n, d) := scaled i.value 10 (-e)
  let den := i.den * d
  let floor := n / den
  let rest := n % den
  match i.contains floor e, i.contains (floor + 1) e with
  | true, true =>
    some (if 2 * rest < den || (2 * rest = den && floor % 2 = 0) then floor else floor + 1)
  | true, false => some floor
  | false, true => some (floor + 1)
  | false, false => none

/-- The coarsest grid of at most `digits + fuel` digits that has a point in the interval. -/
def Interval.coarsest (i : Interval) (lead : Int) : Nat → Nat → Nat × Int
  | 0, _ => (0, 0)
  | fuel + 1, digits =>
    let e := lead - digits
    match i.pointOn e with
    | some n => (n, e)
    | none => i.coarsest lead fuel (digits + 1)

/-- The shortest decimal `n * 10 ^ e` that reads back as the positive double. -/
def shortest (units : Nat) (exponent : Int) : Nat × Int :=
  let i := intervalOf units exponent
  i.coarsest (leadingExponent i.value i.den) 18 0

def dropTrailingZeros (digits : List Char) : List Char :=
  (digits.reverse.dropWhile (· == '0')).reverse

def exponentText (e : Int) : List Char :=
  let digits := Nat.toDigits 10 e.natAbs
  (if e < 0 then '-' else '+') :: (if digits.length < 2 then '0' :: digits else digits)

/-- Digits with a point after the `point`th, or with an exponent. -/
def layout (digits : List Char) (point : Int) : List Char :=
  if -4 < point ∧ point ≤ 16 then
    if point ≤ 0 then '0' :: '.' :: (List.replicate (-point).toNat '0' ++ digits)
    else
      let n := point.toNat
      if digits.length ≤ n then digits ++ List.replicate (n - digits.length) '0' ++ ['.', '0']
      else digits.take n ++ '.' :: digits.drop n
  else
    let tail := if digits.length ≤ 1 then [] else '.' :: digits.drop 1
    digits.take 1 ++ tail ++ 'e' :: exponentText (point - 1)

def text (x : Float) : String :=
  let body : List Char :=
    match magnitude x with
    | .notANumber => ['n', 'a', 'n']
    | .infinite => ['i', 'n', 'f']
    | .finite 0 _ => ['0', '.', '0']
    | .finite units exponent =>
      let (n, e) := shortest units exponent
      let digits := Nat.toDigits 10 n
      layout (dropTrailingZeros digits) (digits.length + e)
  let signed := isNegative x && magnitude x != .notANumber
  String.ofList (if signed then '-' :: body else body)

end CodeTwins.Decimal
