/-!
# Likeness of words

How alike two words are: twice the number of characters in common runs, over the number of all. Common
runs are found from the longest on, on both sides of it.
-/
namespace CodeTwins.Text

def sharedLength : List Char → List Char → Nat
  | a :: s, b :: t => if a = b then sharedLength s t + 1 else 0
  | _, _ => 0

/-- A run that two texts have in common: where it starts in each, and its length. -/
structure CommonRun where
  left : Nat
  right : Nat
  length : Nat
deriving DecidableEq, Repr

/-- The longer of two runs; of runs of one length the first. -/
def CommonRun.longer (a b : CommonRun) : CommonRun :=
  if a.length < b.length then b else a

/-- The longest run that two texts have in common, the first one of its length. -/
def longestRun (s t : List Char) : CommonRun :=
  ((List.range s.length).flatMap fun i => (List.range t.length).map fun j =>
    (⟨i, j, sharedLength (s.drop i) (t.drop j)⟩ : CommonRun)).foldl .longer ⟨0, 0, 0⟩

/-- The number of characters in common runs, found in so many steps at most. -/
def commonWithin : Nat → List Char → List Char → Nat
  | 0, _, _ => 0
  | n + 1, s, t =>
    let run := longestRun s t
    if run.length = 0 then 0
    else
      commonWithin n (s.take run.left) (t.take run.right) + run.length +
        commonWithin n (s.drop (run.left + run.length)) (t.drop (run.right + run.length))

def common (s t : String) : Nat :=
  commonWithin s.length s.toList t.toList

/-- How alike two words are, as a fraction. -/
def likeness (s t : String) : Nat × Nat :=
  (2 * common s t, s.length + t.length)

def areAlike (s t : String) : Bool :=
  let (n, d) := likeness s t
  3 * d ≤ 5 * n

/-- Whether the first fraction is the greater one, or of equal ones that of the later word. -/
def ranksBefore (a b : (Nat × Nat) × String) : Bool :=
  let x := a.1.1 * b.1.2
  let y := b.1.1 * a.1.2
  y < x || (x == y && b.2 ≤ a.2)

/-- The words that are most alike to one, at most three, in order. -/
def suggestions (word : String) (known : List String) : List String :=
  let alike := (known.filter (areAlike · word)).map fun k => (likeness k word, k)
  (((alike.mergeSort ranksBefore).take 3).map (·.2)).mergeSort (· ≤ ·)

end CodeTwins.Text
