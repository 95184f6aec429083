import CodeTwins.Decimal.Shortest

/-!
# Numbers as they are given

A number that was given whole is shown whole; any other is a double.
-/
namespace CodeTwins

/-- A whole number or a double. -/
inductive Number where
  | whole (n : Int)
  | real (x : Float)

namespace Number

def text : Number → String
  | whole n => toString n
  | real x => Decimal.text x

def isWithinUnit : Number → Bool
  | whole n => 0 ≤ n && n ≤ 1
  | real x => 0 ≤ x && x ≤ 1

def toFloat : Number → Float
  | whole n => Decimal.ofInt n
  | real x => x

end Number
end CodeTwins
