import CodeTwins.Unicode.LetterCase

/-!
# Caseless comparison

A caseless match identifies a character with every character of its fold class: those with the
same lower case, and those of a short list of letters that differ only in their written form.
-/
namespace CodeTwins.Unicode

/-- Lower-case letters that a caseless match identifies although their lower cases differ. -/
def alikeLowers : List (List Nat) := [
  [0x69, 0x131], [0x73, 0x17F], [0xB5, 0x3BC], [0x345, 0x3B9, 0x1FBE], [0x390, 0x1FD3],
  [0x3B0, 0x1FE3], [0x3B2, 0x3D0], [0x3B5, 0x3F5], [0x3B8, 0x3D1], [0x3BA, 0x3F0], [0x3C0, 0x3D6],
  [0x3C1, 0x3F1], [0x3C2, 0x3C3], [0x3C6, 0x3D5], [0x432, 0x1C80], [0x434, 0x1C81],
  [0x43E, 0x1C82], [0x441, 0x1C83], [0x442, 0x1C84, 0x1C85], [0x44A, 0x1C86], [0x463, 0x1C87],
  [0x1C88, 0xA64B], [0x1E61, 0x1E9B], [0xFB05, 0xFB06]]

def foldLower (c : Char) : Char :=
  if c == 'İ' then 'i' else lowerChar c

def withLower (n : Nat) : List Nat :=
  let shifted := lowerRuns.filterMap fun r =>
    let m := ((n : Int) - r.delta).toNat
    if r.covers m then some m else none
  let itself := if lowerRuns.any (·.covers n) then [] else [n]
  itself ++ shifted ++ (if n == 0x69 then [0x130] else [])

def foldClass (c : Char) : List Nat :=
  let low := (foldLower c).toNat
  let alike := (alikeLowers.find? (·.contains low)).getD [low]
  alike.flatMap withLower

/-- The code points that a caseless match over ASCII letters identifies with a character. -/
def asciiFoldClass (c : Char) : List Nat :=
  if c.isAlpha then [c.toLower.toNat, c.toUpper.toNat] else [c.toNat]

end CodeTwins.Unicode
