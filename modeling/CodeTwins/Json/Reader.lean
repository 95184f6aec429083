import CodeTwins.Decimal.Double
import CodeTwins.Json.Basic
import CodeTwins.Numeral

/-!
# Reading JSON

JSON texts, with `NaN`, `Infinity` and `-Infinity` as further numbers. Of several fields with one name
the last value counts. A text that is not JSON is refused at the offset where reading stopped: where
a value should start, at a missing delimiter, at the opening quote of a string that does not end, at
a control character, or at a bad escape. A text is also refused where an integer has more digits than
are read.
-/
namespace CodeTwins.Json

/-- Why a text has no value. -/
inductive Refusal where
  /-- It ceases to be JSON at a place. -/
  | notJson (place : Nat)
  | tooManyDigits
deriving DecidableEq, Repr

instance : ToString Refusal where
  toString
    | .notJson place => toString place
    | .tooManyDigits => "too many digits"

/-- What is left of a text, and how many characters have been read. -/
structure Cursor where
  rest : List Char
  pos : Nat

abbrev Reader := StateT Cursor (Except Refusal)

namespace Reader

/-- Refuses the text at a place. -/
def stopAt {α : Type} (place : Nat) : Reader α :=
  throw (.notJson place)

def stop {α : Type} : Reader α := do
  stopAt (← get).pos

def peek : Reader (Option Char) := do
  return (← get).rest.head?

def skip (n : Nat) : Reader Unit :=
  modify fun c => ⟨c.rest.drop n, c.pos + n⟩

def takeWhile (p : Char → Bool) : Reader (List Char) := do
  let taken := (← get).rest.takeWhile p
  skip taken.length
  return taken

def blanks : Reader Unit := do
  discard (takeWhile fun c => c == ' ' || c == '\t' || c == '\n' || c == '\r')

/-- Takes the given character if it comes next. -/
def accept (c : Char) : Reader Bool := do
  if (← peek) = some c then
    skip 1
    return true
  else return false

/-- Takes the given word if it comes next. -/
def acceptWord (word : String) : Reader Bool := do
  if word.toList.isPrefixOf (← get).rest then
    skip word.length
    return true
  else return false

end Reader

open Reader

def hexValue? (c : Char) : Option Nat :=
  if c.isDigit then some (c.toNat - 48)
  else if 'a' ≤ c ∧ c ≤ 'f' then some (c.toNat - 87)
  else if 'A' ≤ c ∧ c ≤ 'F' then some (c.toNat - 55)
  else none

def hexNumber? (digits : List Char) : Option Nat :=
  digits.foldlM (fun n c => (hexValue? c).map (n * 16 + ·)) 0

/-- The code unit after the `u` of an escape. The four digits may not end the text. -/
def readUnit : Reader Nat := do
  let c ← get
  let digits := c.rest.take 4
  if c.rest.length ≤ 4 then stopAt (c.pos - 1)
  match hexNumber? digits with
  | some n =>
    skip 4
    return n
  | none => stopAt (c.pos - 1)

/-- The second half of a surrogate pair, if it follows. -/
def readLowHalf : Reader (Option Nat) := do
  let c ← get
  match c.rest with
  | '\\' :: 'u' :: more =>
    if more.length ≤ 4 then return none
    match hexNumber? (more.take 4) with
    | none => stopAt (c.pos + 1)
    | some n =>
      if 0xDC00 ≤ n ∧ n ≤ 0xDFFF then
        skip 6
        return some n
      else return none
  | _ => return none

/-- The character of a unit by itself. Texts hold no half of a surrogate pair, so a half that stands
alone is read as the replacement character, and which one it was is lost. -/
def charOfUnit (n : Nat) : Char :=
  if 0xD800 ≤ n ∧ n ≤ 0xDFFF then '\uFFFD' else Char.ofNat n

/-- The character of an escape, its backslash already read. -/
def readEscape (c : Char) : Reader Char := do
  match c with
  | '"' => return '"'
  | '\\' => return '\\'
  | '/' => return '/'
  | 'b' => return '\x08'
  | 'f' => return '\x0C'
  | 'n' => return '\n'
  | 'r' => return '\r'
  | 't' => return '\t'
  | 'u' =>
    let high ← readUnit
    if 0xD800 ≤ high ∧ high ≤ 0xDBFF then
      match ← readLowHalf with
      | some low => return Char.ofNat (0x10000 + (high - 0xD800) * 1024 + (low - 0xDC00))
      | none => return '\uFFFD'
    else return charOfUnit high
  | _ => stopAt ((← get).pos - 2)

/-- The characters of a string up to its closing quote. The string opened at `start`. -/
def readChars (start : Nat) : Nat → List Char → Reader String
  | 0, _ => stopAt start
  | fuel + 1, done => do
    match ← peek with
    | none => stopAt start
    | some '"' =>
      skip 1
      return String.ofList done.reverse
    | some '\\' =>
      skip 1
      match ← peek with
      | none => stopAt start
      | some c =>
        skip 1
        readChars start fuel ((← readEscape c) :: done)
    | some c =>
      if c.toNat < 0x20 then stop
      else
        skip 1
        readChars start fuel (c :: done)

/-- A string after its opening quote. -/
def readString : Reader String := do
  let c ← get
  readChars (c.pos - 1) (c.rest.length + 1) []

def natural (digits : List Char) : Nat :=
  digits.foldl (fun n c => n * 10 + (c.toNat - 48)) 0

/-- The fraction and the exponent of a number, as far as they are complete. -/
def readFraction : Reader (List Char) := do
  match (← get).rest with
  | '.' :: d :: _ =>
    if d.isDigit then
      skip 1
      takeWhile Char.isDigit
    else return []
  | _ => return []

/-- The exponent of a number, if it has a digit. -/
def readExponent : Reader (Option Int) := do
  let s ← get
  if s.rest.head? = some 'e' || s.rest.head? = some 'E' then
    skip 1
    let negative ← accept '-'
    if !negative then discard (accept '+')
    let digits ← takeWhile Char.isDigit
    if digits.isEmpty then
      set s
      return none
    return some (if negative then -(natural digits : Int) else natural digits)
  else return none

def readNumber : Reader Json := do
  let start := (← get).pos
  let negative ← accept '-'
  let whole ← if ← accept '0' then pure ['0'] else takeWhile Char.isDigit
  if whole.isEmpty then stopAt start
  let fraction ← readFraction
  let exponent ← readExponent
  let value := natural (whole ++ fraction)
  if fraction.isEmpty && exponent.isNone then
    if Numeral.maxDigits < whole.length then throw .tooManyDigits
    return .int (if negative then -(value : Int) else value)
  return .float (Decimal.nearest negative value (exponent.getD 0 - fraction.length))

mutual

/-- A value, at the first of its characters. -/
def readValue : Nat → Reader Json
  | 0 => stop
  | fuel + 1 => do
    match ← peek with
    | some '"' =>
      skip 1
      return .str (← readString)
    | some '{' =>
      skip 1
      blanks
      if ← accept '}' then return .obj []
      readFields fuel []
    | some '[' =>
      skip 1
      blanks
      if ← accept ']' then return .arr []
      readItems fuel []
    | _ =>
      if ← acceptWord "null" then return .null
      if ← acceptWord "true" then return .bool true
      if ← acceptWord "false" then return .bool false
      if ← acceptWord "NaN" then return .float Decimal.notANumber
      if ← acceptWord "Infinity" then return .float (Decimal.infinity false)
      if ← acceptWord "-Infinity" then return .float (Decimal.infinity true)
      readNumber

/-- The fields of an object up to its closing brace, after those already read. -/
def readFields : Nat → List (String × Json) → Reader Json
  | 0, _ => stop
  | fuel + 1, fields => do
    if !(← accept '"') then stop
    let name ← readString
    blanks
    if !(← accept ':') then stop
    blanks
    let value ← readValue fuel
    let fields := setField name value fields
    blanks
    if ← accept '}' then return .obj fields
    if !(← accept ',') then stop
    blanks
    readFields fuel fields

/-- The items of an array up to its closing bracket, after those already read, the latest first. -/
def readItems : Nat → List Json → Reader Json
  | 0, _ => stop
  | fuel + 1, items => do
    let item ← readValue fuel
    blanks
    if ← accept ']' then return .arr (item :: items).reverse
    if !(← accept ',') then stop
    blanks
    readItems fuel (item :: items)

end

/-- A whole text: a value between blanks. -/
def readText : Reader Json := do
  blanks
  let value ← readValue (2 * (← get).rest.length + 2)
  blanks
  if !(← get).rest.isEmpty then stop
  return value

/-- The value of a JSON text, or why there is none. -/
def parse (text : String) : Except Refusal Json :=
  (readText.run ⟨text.toList, 0⟩).map (·.1)

end CodeTwins.Json
