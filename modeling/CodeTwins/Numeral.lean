import CodeTwins.Decimal.Double
import CodeTwins.Unicode.Digit
import CodeTwins.Unicode.Space

/-!
# Numerals

Integers and decimal numbers as people write them: blanks around, a sign, digits of any script, and
single underscores between digits.
-/
namespace CodeTwins.Numeral

/-- Blanks that may surround a numeral: of ASCII only the space and the five from tab to carriage
return. -/
def isBlank (c : Char) : Bool :=
  if c.toNat < 127 then c == ' ' || (9 ≤ c.toNat && c.toNat ≤ 13) else Unicode.isSpace c

/-- A digit of any script as an ASCII digit; other characters stay. -/
def plainDigit (c : Char) : Char :=
  match Unicode.digitValue? c with
  | some d => Char.ofNat (48 + d)
  | none => c

/-- The characters of a numeral without blanks around it, with ASCII digits. -/
def normalize (s : String) : List Char :=
  let core := s.toList.dropWhile isBlank
  (core.reverse.dropWhile isBlank).reverse.map plainDigit

def sign : List Char → Bool × List Char
  | '-' :: cs => (true, cs)
  | '+' :: cs => (false, cs)
  | cs => (false, cs)

/-- Removes the underscores, each of which must stand between two digits. The character before the
text is given. -/
def joinDigits : Char → List Char → Option (List Char)
  | before, [] => if before = '_' then none else some []
  | before, c :: cs =>
    if c = '_' then
      if before.isDigit then joinDigits c cs else none
    else if before = '_' && !c.isDigit then none
    else (joinDigits c cs).map (c :: ·)

def natural (digits : List Char) : Nat :=
  digits.foldl (fun n c => n * 10 + (c.toNat - 48)) 0

def natural? (digits : List Char) : Option Nat :=
  if digits.isEmpty || !digits.all Char.isDigit then none else some (natural digits)

/-- How many digits an integer may have to be read, and to be written in full. -/
def maxDigits : Nat := 4300

/-- The integer is not too long to be read, or to be written in full. -/
def IsShort (n : Int) : Prop :=
  Decimal.digitCount n.natAbs ≤ maxDigits

instance (n : Int) : Decidable (IsShort n) :=
  inferInstanceAs (Decidable (_ ≤ _))

def int? (s : String) : Option Int := do
  let (negative, body) := sign (normalize s)
  let digits ← joinDigits ' ' body
  let n ← if maxDigits < digits.length then none else natural? digits
  return if negative then -(n : Int) else n

/-- The number of the digits of a text that starts with more of them than an integer may have. -/
def excess? (s : String) : Option Nat := do
  let digits := (← joinDigits ' ' (sign (normalize s)).2).takeWhile Char.isDigit
  if maxDigits < digits.length then some digits.length else none

/-- The digits before and after the point, and what follows. -/
def mantissa (cs : List Char) : List Char × List Char × List Char :=
  let whole := cs.takeWhile Char.isDigit
  match cs.dropWhile Char.isDigit with
  | '.' :: rest => (whole, rest.takeWhile Char.isDigit, rest.dropWhile Char.isDigit)
  | rest => (whole, [], rest)

/-- The value of an exponent part, zero if there is none. -/
def exponent? : List Char → Option Int
  | [] => some 0
  | c :: cs =>
    if c = 'e' || c = 'E' then do
      let (negative, digits) := sign cs
      let n ← natural? digits
      return if negative then -(n : Int) else n
    else none

/-- The double nearest to the number that ASCII characters write: a decimal number with or without
point and exponent, or a name of infinity or of the value that is no number, in any case of letters. -/
def decimal? (cs : List Char) : Option Float := do
  let (negative, body) := sign cs
  let word := String.ofList (body.map Char.toLower)
  if word = "inf" || word = "infinity" then return Decimal.infinity negative
  if word = "nan" then return Decimal.notANumber
  let (whole, fraction, rest) := mantissa body
  if whole.isEmpty && fraction.isEmpty then none
  let e ← exponent? rest
  return Decimal.nearest negative (natural (whole ++ fraction)) (e - fraction.length)

def float? (s : String) : Option Float := do
  decimal? (← joinDigits ' ' (normalize s))

end CodeTwins.Numeral
