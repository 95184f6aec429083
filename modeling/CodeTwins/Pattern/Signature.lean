import CodeTwins.Pattern.Match
import CodeTwins.Pattern.Reader

/-!
# Signature patterns

A signature pattern tells where an element starts; its first group, if there is one, names the
element. A text that is no pattern is refused with the reason.
-/
namespace CodeTwins

/-- A pattern that has been read. -/
structure SignaturePattern where
  source : String
  expr : Pattern.Expr
  groups : Nat
deriving DecidableEq, Repr

/-- A text that is no pattern, and why. -/
structure BadPattern where
  source : String
  error : Pattern.Error
deriving DecidableEq, Repr

/-- The words for a text that is no pattern. -/
def BadPattern.message (b : BadPattern) : String :=
  "Invalid signature pattern " ++ Text.quoted b.source ++ ": " ++ b.error.message b.source

namespace SignaturePattern

def compile (source : String) : Except BadPattern SignaturePattern :=
  match Pattern.readPattern.run { rest := source.toList, pos := 0 } with
  | .ok ((expr, groups), _) => .ok ⟨source, expr, groups⟩
  | .error e => .error ⟨source, e⟩

/-- Reads patterns up to the first that is none. -/
def compileAll (sources : List String) : Except BadPattern (List SignaturePattern) :=
  sources.mapM compile

def occursIn (p : SignaturePattern) (text : List Char) : Bool :=
  p.expr.occursIn text.toArray

end SignaturePattern
end CodeTwins
