/-!
# Ranges of code points

A Unicode property is given by the closed ranges of code points that have it.
-/
namespace CodeTwins.Unicode

def inRanges (ranges : List (Nat × Nat)) (c : Char) : Bool :=
  ranges.any fun r => r.1 ≤ c.toNat && c.toNat ≤ r.2

end CodeTwins.Unicode
