import CodeTwins.Decimal.Double

/-!
# Decimal text with a fixed number of places

The exact value of a double is rounded to the given number of decimal places, a tie to the even
neighbour.
-/
namespace CodeTwins.Decimal

/-- The quotient rounded to the nearest natural number, a tie to the even one. -/
def roundHalfEven (num den : Nat) : Nat :=
  let q := num / den
  let r := num % den
  if 2 * r < den || (2 * r = den && q % 2 = 0) then q else q + 1

def placed (places n : Nat) : List Char :=
  let digits := Nat.toDigits 10 n
  let padded := List.replicate (places + 1 - digits.length) '0' ++ digits
  let whole := padded.take (padded.length - places)
  if places = 0 then whole else whole ++ '.' :: padded.drop (padded.length - places)

def fixed (places : Nat) (x : Float) : String :=
  let body : List Char :=
    match magnitude x with
    | .notANumber => ['n', 'a', 'n']
    | .infinite => ['i', 'n', 'f']
    | .finite units exponent =>
      let (num, den) := scaled units 2 exponent
      placed places (roundHalfEven (num * Nat.pow 10 places) den)
  let signed := isNegative x && magnitude x != .notANumber
  String.ofList (if signed then '-' :: body else body)

end CodeTwins.Decimal
