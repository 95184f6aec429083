import CodeTwins.Unicode.Alphanumeric
import CodeTwins.Unicode.CaseFold
import CodeTwins.Unicode.Digit
import CodeTwins.Unicode.Space

/-!
# Tests on one character

What a pattern may ask of a single character: to be a given one, to lie in a range, or to belong to
a class, each possibly without regard to case, and any negated union of these.
-/
namespace CodeTwins.Pattern

/-- How a pattern compares letters. -/
inductive Casing where
  | exact
  | ascii
  | unicode
deriving DecidableEq, Repr

def Casing.classOf (casing : Casing) (c : Char) : List Nat :=
  match casing with
  | exact => [c.toNat]
  | ascii => Unicode.asciiFoldClass c
  | unicode => Unicode.foldClass c

/-- Whether two characters count as the same letter where a group is repeated. -/
def Casing.same (casing : Casing) (c d : Char) : Bool :=
  match casing with
  | exact => c == d
  | ascii => c.toLower == d.toLower
  | unicode => Unicode.foldLower c == Unicode.foldLower d

/-- The named classes of characters. -/
inductive Kind where
  | digit
  | space
  | word
deriving DecidableEq, Repr

/-- Membership in a class, over all characters or over ASCII alone. -/
def Kind.has (kind : Kind) (ascii : Bool) (c : Char) : Bool :=
  if ascii && 0x80 ≤ c.toNat then false
  else match kind with
    | digit => Unicode.isDigit c
    | space => if ascii then c == ' ' || (9 ≤ c.toNat && c.toNat ≤ 13) else Unicode.isSpace c
    | word => Unicode.isWord c

/-- One member of a set of characters. Literals and ranges are given by code points. -/
inductive Member where
  | code (n : Nat)
  | range (first last : Nat)
  | kind (k : Kind) (ascii negated : Bool)
deriving DecidableEq, Repr

def Member.covers (casing : Casing) (c : Char) : Member → Bool
  | code n => (casing.classOf c).contains n
  | range first last => (casing.classOf c).any fun n => first ≤ n && n ≤ last
  | kind k ascii negated => k.has ascii c != negated

/-- A test on one character. -/
inductive Letter where
  | any
  | inLine
  | among (members : List Member) (negated : Bool) (casing : Casing)
deriving DecidableEq, Repr

def Letter.accepts (letter : Letter) (c : Char) : Bool :=
  match letter with
  | any => true
  | inLine => c != '\n'
  | among members negated casing => members.any (·.covers casing c) != negated

end CodeTwins.Pattern
