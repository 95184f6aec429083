import CodeTwins.Text.Trim
import CodeTwins.Text.Utf8
import CodeTwins.Unicode.LetterCase

/-!
# Addresses

The parts of a URL, and what percent signs in them stand for.
-/
namespace CodeTwins.Http

def hexValue? (c : Char) : Option Nat :=
  if c.isDigit then some (c.toNat - 48)
  else if 'a' ≤ c && c ≤ 'f' then some (c.toNat - 87)
  else if 'A' ≤ c && c ≤ 'F' then some (c.toNat - 55)
  else none

/-- The bytes of a text in which a percent sign and two hexadecimal digits stand for a byte. -/
def unescapedBytes : List Char → List UInt8
  | '%' :: a :: b :: cs =>
    match hexValue? a, hexValue? b with
    | some x, some y => (16 * x + y).toUInt8 :: unescapedBytes cs
    | _, _ => 0x25 :: unescapedBytes (a :: b :: cs)
  | c :: cs => Utf8.encode (String.singleton c) ++ unescapedBytes cs
  | [] => []

def unescape (cs : List Char) : List Char :=
  Utf8.lossy (unescapedBytes cs)

/-- The part before the first of some characters, and what starts with that. -/
def spanTo (stops : List Char) (cs : List Char) : List Char × List Char :=
  (cs.takeWhile (!stops.contains ·), cs.dropWhile (!stops.contains ·))

/-- A name and a value of a query. A plus sign stands for a blank. -/
def queryField (part : List Char) : String × String :=
  let plain := fun (cs : List Char) =>
    String.ofList (unescape (cs.map fun c => if c = '+' then ' ' else c))
  let (name, rest) := spanTo ['='] part
  (plain name, plain (rest.drop 1))

def queryFields (query : List Char) : List (String × String) :=
  ((Text.splitOn '&' query).filter (!·.isEmpty)).map queryField

/-- Path segments without those that stand for the directory itself or the one above. -/
def withoutDots (segments : List (List Char)) : List (List Char) :=
  let kept := segments.foldl (fun (out : List (List Char)) segment =>
    if segment = ['.'] then out
    else if segment = ['.', '.'] then (if out = [] ∨ out = [[]] then out else out.drop 1)
    else segment :: out) []
  kept.reverse

/-- The path and the query of a request target. What follows a number sign does not count. -/
def splitTarget (target : List Char) : List Char × List (String × String) :=
  let (address, _) := spanTo ['#'] target
  let (path, query) := spanTo ['?'] address
  (path, queryFields (query.drop 1))

/-- The path that a request target names, its dots and percent signs resolved. -/
def resolvedPath (path : List Char) : String :=
  String.ofList (unescape (Text.joinWith '/' (withoutDots (Text.splitOn '/' path))))

/-- An address: its host and what follows. -/
structure Url where
  host : String
  target : List Char
deriving DecidableEq, Repr

/-- The host within an authority, without a user before it and a port after it. -/
def hostOf (authority : List Char) : List Char :=
  let host := (authority.reverse.takeWhile (· ≠ '@')).reverse
  match host with
  | '[' :: rest => rest.takeWhile (· ≠ ']')
  | _ => host.takeWhile (· ≠ ':')

def isScheme : List Char → Bool
  | c :: cs => c.isAlpha && cs.all fun c => c.isAlphanum || ['+', '.', '-'].contains c
  | [] => false

/-- An address without its scheme. -/
def withoutScheme (cs : List Char) : List Char :=
  let (scheme, rest) := spanTo [':', '/', '?', '#'] cs
  match rest with
  | ':' :: after => if isScheme scheme then after else cs
  | _ => cs

def Url.ofString (s : String) : Url :=
  match withoutScheme s.toList with
  | '/' :: '/' :: rest =>
    let (authority, target) := spanTo ['/', '?', '#'] rest
    ⟨Unicode.lower (String.ofList (hostOf authority)), target⟩
  | target => ⟨"", target⟩

end CodeTwins.Http
