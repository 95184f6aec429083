import CodeTwins.Vector.Scalar

/-!
# Rankings

Items by their scores: those at or above a threshold, the best first, and of equal ones the earlier
first, as many as a limit allows.
-/
namespace CodeTwins

/-- An item with its score. -/
structure Scored (α β : Type) where
  score : α
  item : β
deriving DecidableEq, Repr

namespace Scored

variable {α β : Type} [Scalar α]

def atLeast (threshold : α) (l : List (Scored α β)) : List (Scored α β) :=
  l.filter fun s => Scalar.le threshold s.score

/-- Whether an item may stand before another: its score is no smaller. -/
def before (s t : Scored α β) : Bool :=
  Scalar.le t.score s.score

/-- The items, the best first. Equal ones keep their order. -/
def ranked (l : List (Scored α β)) : List (Scored α β) :=
  l.mergeSort before

/-- The best of the items that reach a threshold. A limit below zero allows none. -/
def best (threshold : α) (limit : Int) (l : List (Scored α β)) : List (Scored α β) :=
  (ranked (atLeast threshold l)).take limit.toNat

end Scored
end CodeTwins
