import CodeTwins.Decimal.Shortest
import CodeTwins.Json.Basic
import CodeTwins.Text.Quoted

/-!
# Writing JSON

A text has the same blanks after all its commas and colons. Quotes, backslashes and control characters
are escaped, and in some texts all that is not ASCII is.
-/
namespace CodeTwins.Json

/-- What texts may differ in: the blanks, and whether they are kept to printable ASCII. -/
structure Style where
  gap : String
  ascii : Bool

/-- The form without blanks, in which characters stand for themselves as far as they can. -/
def Style.compact : Style := ⟨"", false⟩

def Style.spaced : Style := ⟨" ", true⟩

def escapeUnit (n : Nat) : List Char :=
  '\\' :: 'u' :: Text.hexDigits 4 n

/-- A character as one code unit or as a pair of them. -/
def escapeUnits (c : Char) : List Char :=
  if c.toNat < 0x10000 then escapeUnit c.toNat
  else
    let n := c.toNat - 0x10000
    escapeUnit (0xD800 + n / 1024) ++ escapeUnit (0xDC00 + n % 1024)

def writeChar (ascii : Bool) (c : Char) : List Char :=
  match c with
  | '"' => ['\\', '"']
  | '\\' => ['\\', '\\']
  | '\n' => ['\\', 'n']
  | '\r' => ['\\', 'r']
  | '\t' => ['\\', 't']
  | '\x08' => ['\\', 'b']
  | '\x0C' => ['\\', 'f']
  | _ => if c.toNat < 0x20 ∨ (ascii ∧ 0x7F ≤ c.toNat) then escapeUnits c else [c]

def writeString (style : Style) (s : String) : String :=
  String.ofList ('"' :: s.toList.flatMap (writeChar style.ascii) ++ ['"'])

def writeFloat (x : Float) : String :=
  match Decimal.magnitude x with
  | .notANumber => "NaN"
  | .infinite => if Decimal.isNegative x then "-Infinity" else "Infinity"
  | .finite _ _ => Decimal.text x

mutual

def writeIn (style : Style) : Json → String
  | null => "null"
  | bool b => if b then "true" else "false"
  | int n => toString n
  | float x => writeFloat x
  | str s => writeString style s
  | arr items => "[" ++ writeItems style items ++ "]"
  | obj fields => "\x7b" ++ writeFields style fields ++ "\x7d"

def writeItems (style : Style) : List Json → String
  | [] => ""
  | [j] => writeIn style j
  | j :: js => writeIn style j ++ "," ++ style.gap ++ writeItems style js

def writeFields (style : Style) : List (String × Json) → String
  | [] => ""
  | [(n, j)] => writeString style n ++ ":" ++ style.gap ++ writeIn style j
  | (n, j) :: rest =>
    writeString style n ++ ":" ++ style.gap ++ writeIn style j ++ "," ++ style.gap ++
      writeFields style rest

end

def write (j : Json) : String :=
  j.writeIn .compact

end CodeTwins.Json
