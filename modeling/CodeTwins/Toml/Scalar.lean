import CodeTwins.Decimal.Double
import CodeTwins.Numeral
import CodeTwins.Toml.Value

/-!
# Strings, numbers and dates of TOML

What stands at the start of a text and what is left after it; nothing if the text does not start with
one of the kind.
-/
namespace CodeTwins.Toml

/-- Something read from the start of a text, and the rest. -/
abbrev Taken (β : Type) := Option (β × List Char)

/-- A character before what has been read. -/
def push (c : Char) (t : Taken (List Char)) : Taken (List Char) :=
  t.map fun (cs, rest) => (c :: cs, rest)

def isBlank (c : Char) : Bool :=
  c = ' ' || c = '\t'

/-- Characters that must not occur: the control characters of ASCII, but for the tab. -/
def isControl (c : Char) : Bool :=
  (c.toNat < 32 && c ≠ '\t') || c.toNat = 127

/-! ## Strings -/

/-- A literal string after its opening quote: all up to the next quote, on one line. -/
def literal : List Char → Taken (List Char)
  | [] => none
  | c :: cs =>
    if c = '\'' then some ([], cs)
    else if isControl c then none
    else push c (literal cs)

/-- A literal string of several lines after its opening quotes. -/
def longLiteral : List Char → Taken (List Char)
  | [] => none
  | '\'' :: '\'' :: '\'' :: cs => some ([], cs)
  | c :: cs => if isControl c && c ≠ '\n' then none else push c (longLiteral cs)

def hexDigit? (c : Char) : Option Nat :=
  if c.isDigit then some (c.toNat - 48)
  else if 'a' ≤ c && c ≤ 'f' then some (c.toNat - 87)
  else if 'A' ≤ c && c ≤ 'F' then some (c.toNat - 55)
  else none

/-- The character of a code in hexadecimal digits. Halves of surrogate pairs are none. -/
def codeChar? (digits : List Char) : Option Char := do
  let n ← digits.foldlM (fun n c => (hexDigit? c).map (16 * n + ·)) 0
  if n.isValidChar then some (Char.ofNat n) else none

def escape? (c : Char) : Option Char :=
  match c with
  | 'b' => some '\x08'
  | 't' => some '\t'
  | 'n' => some '\n'
  | 'f' => some '\x0C'
  | 'r' => some '\r'
  | '"' => some '"'
  | '\\' => some '\\'
  | _ => none

/-- A basic string after its opening quote. -/
def basic : List Char → Taken (List Char)
  | [] => none
  | '"' :: cs => some ([], cs)
  | '\\' :: 'u' :: a :: b :: c :: d :: cs =>
    (codeChar? [a, b, c, d]).bind fun x => push x (basic cs)
  | '\\' :: 'U' :: a :: b :: c :: d :: e :: f :: g :: h :: cs =>
    (codeChar? [a, b, c, d, e, f, g, h]).bind fun x => push x (basic cs)
  | '\\' :: e :: cs => (escape? e).bind fun x => push x (basic cs)
  | c :: cs => if c = '\\' || isControl c then none else push c (basic cs)

/-- How a basic string of several lines goes on: plainly, or only with blanks up to the end of the
line, or without the white space that comes next. -/
inductive Going where
  | plain
  | toLineEnd
  | trimming
deriving DecidableEq, Repr

/-- A basic string of several lines after its opening quotes. A backslash at the end of a line takes
the white space after it away. -/
def longBasic (going : Going) : List Char → Taken (List Char)
  | [] => none
  | c :: cs =>
    if going = .toLineEnd then
      if c = '\n' then longBasic .trimming cs
      else if isBlank c then longBasic .toLineEnd cs
      else none
    else if going = .trimming ∧ (isBlank c ∨ c = '\n') then longBasic .trimming cs
    else if c = '"' then
      match cs with
      | '"' :: '"' :: rest => some ([], rest)
      | _ => push c (longBasic .plain cs)
    else if c = '\\' then
      match cs with
      | '\n' :: rest => longBasic .trimming rest
      | ' ' :: rest => longBasic .toLineEnd rest
      | '\t' :: rest => longBasic .toLineEnd rest
      | 'u' :: i :: j :: k :: l :: rest =>
        (codeChar? [i, j, k, l]).bind fun x => push x (longBasic .plain rest)
      | 'U' :: i :: j :: k :: l :: m :: n :: o :: p :: rest =>
        (codeChar? [i, j, k, l, m, n, o, p]).bind fun x => push x (longBasic .plain rest)
      | e :: rest => (escape? e).bind fun x => push x (longBasic .plain rest)
      | [] => none
    else if isControl c && c ≠ '\n' then none
    else push c (longBasic .plain cs)

/-- Up to two quotes that stand before the closing ones belong to the string. -/
def withExtraQuotes (quote : Char) : Taken (List Char) → Taken (List Char)
  | some (s, a :: b :: rest) =>
    if a = quote ∧ b = quote then some (s ++ [quote, quote], rest)
    else if a = quote then some (s ++ [quote], b :: rest)
    else some (s, a :: b :: rest)
  | some (s, [a]) => if a = quote then some (s ++ [quote], []) else some (s, [a])
  | t => t

/-- A newline that follows the opening quotes does not belong to the string. -/
def withoutFirstNewline : List Char → List Char
  | '\n' :: cs => cs
  | cs => cs

def string : List Char → Taken (List Char)
  | '"' :: '"' :: '"' :: cs => withExtraQuotes '"' (longBasic .plain (withoutFirstNewline cs))
  | '\'' :: '\'' :: '\'' :: cs => withExtraQuotes '\'' (longLiteral (withoutFirstNewline cs))
  | '"' :: cs => basic cs
  | '\'' :: cs => literal cs
  | _ => none

/-! ## Numbers -/

/-- Further digits of a class, each perhaps after an underscore. -/
def moreDigits (p : Char → Bool) : List Char → List Char × List Char
  | [] => ([], [])
  | '_' :: d :: cs =>
    if p d then
      let (ds, rest) := moreDigits p cs
      (d :: ds, rest)
    else ([], '_' :: d :: cs)
  | c :: cs =>
    if p c then
      let (ds, rest) := moreDigits p cs
      (c :: ds, rest)
    else ([], c :: cs)

def digits (p : Char → Bool) : List Char → Taken (List Char)
  | c :: cs =>
    if p c then
      let (ds, rest) := moreDigits p cs
      some (c :: ds, rest)
    else none
  | [] => none

def numberOf (base : Nat) (ds : List Char) : Nat :=
  ds.foldl (fun n c => base * n + (hexDigit? c).getD 0) 0

def radixInteger : List Char → Taken Value
  | '0' :: 'x' :: cs =>
    (digits (fun c => (hexDigit? c).isSome) cs).map fun (ds, rest) => (.int (numberOf 16 ds), rest)
  | '0' :: 'o' :: cs =>
    (digits (fun c => '0' ≤ c && c ≤ '7') cs).map fun (ds, rest) => (.int (numberOf 8 ds), rest)
  | '0' :: 'b' :: cs =>
    (digits (fun c => c = '0' || c = '1') cs).map fun (ds, rest) => (.int (numberOf 2 ds), rest)
  | _ => none

/-- The digits before the point: a zero, or digits of which the first is not zero. -/
def wholeDigits : List Char → Taken (List Char)
  | '0' :: cs => some (['0'], cs)
  | cs => digits Char.isDigit cs

/-- The digits after a point, if there are any. -/
def fractionDigits : List Char → List Char × List Char
  | '.' :: cs => (digits Char.isDigit cs).getD ([], '.' :: cs)
  | cs => ([], cs)

/-- An exponent, if there is one. -/
def exponent : List Char → Option Int × List Char
  | c :: cs =>
    if c = 'e' || c = 'E' then
      let (negative, unsigned) := Numeral.sign cs
      match digits Char.isDigit unsigned with
      | some (ds, rest) =>
        let n : Int := numberOf 10 ds
        (some (if negative then -n else n), rest)
      | none => (none, c :: cs)
    else (none, c :: cs)
  | [] => (none, [])

/-- A decimal number: an integer, unless it has a fraction or an exponent. -/
def decimal (cs : List Char) : Option (Value × List Char) := do
  let (negative, unsigned) := Numeral.sign cs
  let (whole, rest) ← wholeDigits unsigned
  let (fraction, rest) := fractionDigits rest
  let (e, rest) := exponent rest
  if fraction.isEmpty && e.isNone then
    if Numeral.maxDigits < whole.length then none
    let n : Int := numberOf 10 whole
    return (.int (if negative then -n else n), rest)
  let x := Decimal.nearest negative (numberOf 10 (whole ++ fraction)) (e.getD 0 - fraction.length)
  return (.float x, rest)

/-- Infinity, or the value that is no number. -/
def special (cs : List Char) : Taken Value :=
  let (negative, unsigned) := Numeral.sign cs
  match unsigned with
  | 'i' :: 'n' :: 'f' :: rest => some (.float (Decimal.infinity negative), rest)
  | 'n' :: 'a' :: 'n' :: rest => some (.float Decimal.notANumber, rest)
  | _ => none

/-! ## Dates and times -/

def twoDigits (low high : Nat) : List Char → Taken Nat
  | a :: b :: rest =>
    let n := numberOf 10 [a, b]
    if a.isDigit && b.isDigit && low ≤ n && n ≤ high then some (n, rest) else none
  | _ => none

/-- A character that must stand there. -/
def expect (c : Char) : List Char → Option (List Char)
  | d :: cs => if c = d then some cs else none
  | [] => none

/-- The fraction of a second in millionths, if there is one. Further digits do not count. -/
def micros : List Char → Nat × List Char
  | '.' :: cs =>
    let ds := cs.takeWhile Char.isDigit
    if ds.isEmpty then (0, '.' :: cs)
    else (numberOf 10 ((ds ++ List.replicate 6 '0').take 6), cs.dropWhile Char.isDigit)
  | cs => (0, cs)

def clock (cs : List Char) : Option (Clock × List Char) := do
  let (hour, cs) ← twoDigits 0 23 cs
  let (minute, cs) ← twoDigits 0 59 (← expect ':' cs)
  let (second, cs) ← twoDigits 0 59 (← expect ':' cs)
  let (fraction, cs) := micros cs
  return (⟨hour, minute, second, fraction⟩, cs)

def offset : List Char → Option (Int × List Char)
  | 'Z' :: cs => some (0, cs)
  | 'z' :: cs => some (0, cs)
  | c :: cs =>
    if c = '+' || c = '-' then do
      let (hours, cs) ← twoDigits 0 23 cs
      let (minutes, cs) ← twoDigits 0 59 (← expect ':' cs)
      let n : Int := 60 * hours + minutes
      return (if c = '-' then -n else n, cs)
    else none
  | [] => none

/-- A day of some year and month, which need not be in the calendar. -/
def day : List Char → Option (Day × List Char)
  | a :: b :: c :: d :: cs => do
    if [a, b, c, d].any (!·.isDigit) then none
    let (month, cs) ← twoDigits 1 12 (← expect '-' cs)
    let (dayOfMonth, cs) ← twoDigits 1 31 (← expect '-' cs)
    return (⟨numberOf 10 [a, b, c, d], month, dayOfMonth⟩, cs)
  | _ => none

/-- The time after a day, with its offset. -/
def clockAfterDay : List Char → Option ((Clock × Option Int) × List Char)
  | c :: cs =>
    if c = 'T' || c = 't' || c = ' ' then do
      let (time, cs) ← clock cs
      match offset cs with
      | some (o, cs) => return ((time, some o), cs)
      | none => return ((time, none), cs)
    else none
  | [] => none

/-- A date or a time. A day that the calendar does not have is refused by the inner option. -/
def moment (cs : List Char) : Option (Taken Moment) :=
  match day cs with
  | some (d, rest) =>
    some (if !d.isReal then none
      else
        match clockAfterDay rest with
        | some ((c, o), rest) => some (.both d c o, rest)
        | none => some (.day d, rest))
  | none => (clock cs).map fun (c, rest) => some (.clock c, rest)

/-- A number, a date or a time. -/
def plainScalar (cs : List Char) : Taken Value :=
  match moment cs with
  | some taken => taken.map fun (m, rest) => (.moment m, rest)
  | none => ((radixInteger cs).or (decimal cs)).or (special cs)

end CodeTwins.Toml
