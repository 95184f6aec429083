import CodeTwins.Pattern.Expr

/-!
# Matching

An expression is matched by backtracking: `Expr.run e` offers, in order of preference, every way in
which `e` can go on from a mark to a continuation, and keeps the first that the continuation
accepts. A repetition never starts a round that a round before it has started at the same place.
-/
namespace CodeTwins.Pattern

/-- How far a match has come, and the spans of the groups that have matched, the latest first. -/
structure Mark where
  pos : Nat
  spans : List (Nat × Nat × Nat)
deriving DecidableEq, Repr

def Mark.span? (m : Mark) (index : Nat) : Option (Nat × Nat) :=
  (m.spans.find? (·.1 == index)).map (·.2)

/-- A way to go on from a mark: the first continuation that succeeds. -/
abbrev Step := Mark → (Mark → Option Mark) → Option Mark

namespace Step

def times (body : Step) : Nat → Step
  | 0 => fun m k => k m
  | n + 1 => fun m k => body m fun m' => times body n m' k

/-- Optional rounds, at most `most` of them, as many as possible first or as few. A round does not
start where the round before it started. The first argument bounds the rounds. -/
def rounds (body : Step) (lazy : Bool) : Nat → Option Nat → Option Nat → Step
  | 0, _, _ => fun m k => k m
  | fuel + 1, most, last => fun m k =>
    let another := fun _ : Unit =>
      if most = some 0 || last = some m.pos then none
      else body m fun m' => rounds body lazy fuel (most.map (· - 1)) (some m.pos) m' k
    if lazy then
      match k m with
      | some r => some r
      | none => another ()
    else
      match another () with
      | some r => some r
      | none => k m

/-- The first way a step can go, without a second choice. -/
def first (body : Step) : Step := fun m k =>
  match body m some with
  | some m' => k m'
  | none => none

end Step

def letterAt (text : Array Char) (pos : Nat) : Option Char :=
  text[pos]?

/-- The character before a position. -/
def letterBefore (text : Array Char) (pos : Nat) : Option Char :=
  if pos = 0 then none else text[pos - 1]?

def Place.holds (text : Array Char) (pos : Nat) : Place → Bool
  | textStart => pos = 0
  | textEnd => pos = text.size
  | lastLineEnd => pos = text.size || (pos + 1 = text.size && text[pos]? = some '\n')
  | lineStart => pos = 0 || letterBefore text pos = some '\n'
  | lineEnd => pos = text.size || text[pos]? = some '\n'
  | wordEdge ascii negated =>
    text.size != 0 &&
      (((letterBefore text pos).any (Kind.word.has ascii) !=
        (letterAt text pos).any (Kind.word.has ascii)) != negated)

def agree (text : Array Char) (casing : Casing) (i j : Nat) : Nat → Bool
  | 0 => true
  | n + 1 =>
    match text[i]?, text[j]? with
    | some c, some d => casing.same c d && agree text casing (i + 1) (j + 1) n
    | _, _ => false

def Expr.run (text : Array Char) : Expr → Step
  | empty => fun m k => k m
  | letter l => fun m k =>
    match text[m.pos]? with
    | some c => if l.accepts c then k { m with pos := m.pos + 1 } else none
    | none => none
  | place p => fun m k => if p.holds text m.pos then k m else none
  | cat a b => fun m k => a.run text m fun m' => b.run text m' k
  | alt a b => fun m k =>
    match a.run text m k with
    | some r => some r
    | none => b.run text m k
  | rep least most greed body => fun m k =>
    let optional : Step := fun m' =>
      Step.rounds (body.run text) (greed = .lazy) (text.size - m'.pos + 2)
        (most.map (· - least)) none m'
    let all : Step := fun m k => Step.times (body.run text) least m fun m' => optional m' k
    if greed = .possessive then all.first m k else all m k
  | group index body => fun m k =>
    body.run text m fun m' => k { m' with spans := (index, m.pos, m'.pos) :: m'.spans }
  | again index casing => fun m k =>
    match m.span? index with
    | some (start, stop) =>
      if agree text casing start m.pos (stop - start) then
        k { m with pos := m.pos + (stop - start) }
      else none
    | none => none
  | ahead negated body => fun m k =>
    match body.run text m some, negated with
    | some m', false => k { m' with pos := m.pos }
    | none, true => k m
    | _, _ => none
  | behind length negated body => fun m k =>
    let found := if length ≤ m.pos then body.run text { m with pos := m.pos - length } some else none
    match found, negated with
    | some m', false => k { m' with pos := m.pos }
    | none, true => k m
    | _, _ => none
  | once body => fun m k => Step.first (body.run text) m k
  | ifGroup index yes no => fun m k =>
    if (m.span? index).isSome then yes.run text m k else no.run text m k

/-- A match: where it starts and stops, and the spans of its groups. -/
structure Match where
  start : Nat
  stop : Nat
  spans : List (Nat × Nat × Nat)
deriving DecidableEq, Repr

/-- The match of an expression that starts at a position. With `advance`, an empty one does not
count. -/
def Expr.matchAt (e : Expr) (text : Array Char) (pos : Nat) (advance : Bool) : Option Match :=
  (e.run text ⟨pos, []⟩ fun m => if advance && m.pos = pos then none else some m).map
    fun m => ⟨pos, m.pos, m.spans⟩

/-- The first match at or after a position. Only at that position does `advance` count. -/
def Expr.findFrom (e : Expr) (text : Array Char) (pos : Nat) (advance : Bool) : Option Match :=
  match e.matchAt text pos advance with
  | some found => some found
  | none => if pos < text.size then e.findFrom text (pos + 1) false else none
termination_by text.size - pos

/-- The matches from a position on, each starting where the one before it stopped or later. An
empty match may follow at the end of a match that is not empty, and no match at the place of an
empty one is empty again. The first argument bounds their number. -/
def Expr.matchesFrom (e : Expr) (text : Array Char) : Nat → Nat → Bool → List Match
  | 0, _, _ => []
  | fuel + 1, pos, advance =>
    match e.findFrom text pos advance with
    | some found => found :: e.matchesFrom text fuel found.stop (found.stop = found.start)
    | none => []

/-- All matches in a text, from left to right and without overlap. -/
def Expr.matches (e : Expr) (text : Array Char) : List Match :=
  e.matchesFrom text (2 * text.size + 2) 0 false

def Expr.occursIn (e : Expr) (text : Array Char) : Bool :=
  (e.findFrom text 0 false).isSome

end CodeTwins.Pattern
