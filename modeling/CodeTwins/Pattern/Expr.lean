import CodeTwins.Pattern.Letter

/-!
# Pattern expressions

The expressions that a signature pattern is read into, and the range of lengths of the texts that
an expression can match.
-/
namespace CodeTwins.Pattern

/-- Places in a text that an expression can ask for without consuming anything. -/
inductive Place where
  | textStart
  | textEnd
  /-- The end, or before a newline that ends the text. -/
  | lastLineEnd
  | lineStart
  | lineEnd
  | wordEdge (ascii negated : Bool)
deriving DecidableEq, Repr

/-- How often a repetition tries to go on: as long as it can, no longer than it must, or as long
as it can without ever giving back. -/
inductive Greed where
  | greedy
  | lazy
  | possessive
deriving DecidableEq, Repr

/-- A pattern expression. -/
inductive Expr where
  | empty
  | letter (l : Letter)
  | place (p : Place)
  | cat (first second : Expr)
  | alt (first second : Expr)
  | rep (least : Nat) (most : Option Nat) (greed : Greed) (body : Expr)
  /-- A group that remembers its text under a number. -/
  | group (index : Nat) (body : Expr)
  /-- The text that a group remembered, again. -/
  | again (index : Nat) (casing : Casing)
  | ahead (negated : Bool) (body : Expr)
  /-- A text of the given length that ends here. -/
  | behind (length : Nat) (negated : Bool) (body : Expr)
  /-- The first way to match the body and no other. -/
  | once (body : Expr)
  /-- One of two expressions, as a group has matched or not. -/
  | ifGroup (index : Nat) (yes no : Expr)
deriving DecidableEq, Repr

/-- All expressions one after the other. -/
def Expr.ofList : List Expr → Expr
  | [] => .empty
  | [e] => e
  | e :: es => .cat e (ofList es)

def Expr.oneOf : List Expr → Expr
  | [] => .empty
  | [e] => e
  | e :: es => .alt e (oneOf es)

/-- Least and greatest length of the texts that an expression matches. -/
structure Width where
  least : Nat
  most : Option Nat
deriving DecidableEq, Repr

namespace Width

/-- One text after the other. -/
def add (v w : Width) : Width :=
  ⟨v.least + w.least, do return (← v.most) + (← w.most)⟩

def join (v w : Width) : Width :=
  ⟨min v.least w.least, do return max (← v.most) (← w.most)⟩

def times (w : Width) (least : Nat) (most : Option Nat) : Width :=
  ⟨w.least * least,
    if w.most = some 0 || most = some 0 then some 0 else do return (← w.most) * (← most)⟩

/-- The only length, if there is one. -/
def only? (w : Width) : Option Nat :=
  if w.most = some w.least then some w.least else none

end Width

/-- The width of an expression, given those of the groups it repeats. -/
def Expr.width (groups : Nat → Width) : Expr → Width
  | empty => ⟨0, some 0⟩
  | letter _ => ⟨1, some 1⟩
  | place _ => ⟨0, some 0⟩
  | cat a b => (a.width groups).add (b.width groups)
  | alt a b => (a.width groups).join (b.width groups)
  | rep least most _ body => (body.width groups).times least most
  | group _ body => body.width groups
  | again index _ => groups index
  | ahead _ _ => ⟨0, some 0⟩
  | behind _ _ _ => ⟨0, some 0⟩
  | once body => body.width groups
  | ifGroup _ yes no => (yes.width groups).join (no.width groups)

end CodeTwins.Pattern
