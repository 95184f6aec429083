import CodeTwins.Decimal.Shortest
import CodeTwins.Json.Basic
import CodeTwins.Numeral
import CodeTwins.Text.Quoted

/-!
# Fitting JSON values into shapes

Values from outside are taken as objects, integers, numbers and texts as far as they can be. A value
that does not fit is a `Misfit`, which tells what was expected.
-/
namespace CodeTwins

namespace Json

def kind : Json → String
  | null => "NoneType"
  | bool _ => "bool"
  | int _ => "int"
  | float _ => "float"
  | str _ => "str"
  | arr _ => "list"
  | obj _ => "dict"

/-- Whether a value counts as given: not null, false, zero or empty. -/
def isGiven : Json → Bool
  | null => false
  | bool b => b
  | int n => n != 0
  | float x => x != 0
  | str s => !s.isEmpty
  | arr items => !items.isEmpty
  | obj fields => !fields.isEmpty

mutual

def shown : Json → String
  | null => "None"
  | bool b => if b then "True" else "False"
  | int n => toString n
  | float x => Decimal.text x
  | str s => Text.quoted s
  | arr items => "[" ++ shownItems items ++ "]"
  | obj fields => "\x7b" ++ shownFields fields ++ "\x7d"

def shownItems : List Json → String
  | [] => ""
  | [j] => shown j
  | j :: js => shown j ++ ", " ++ shownItems js

def shownFields : List (String × Json) → String
  | [] => ""
  | [(n, j)] => Text.quoted n ++ ": " ++ shown j
  | (n, j) :: rest => Text.quoted n ++ ": " ++ shown j ++ ", " ++ shownFields rest

end

/-- A value as text: a string as it is, any other value as it is shown. -/
def plain : Json → String
  | str s => s
  | j => shown j

end Json

/-- Why a value does not fit. -/
inductive Misfit where
  /-- Fields were asked of a value of another kind. -/
  | noFields (kind : String) (member : String)
  | missingField (name : String)
  /-- A value with members of its own kind was expected. -/
  | notIterable (kind : String)
  | notInteger (kind : String)
  | notNumber (kind : String)
  | badInteger (text : String)
  | badNumber (text : String)
  | nanInteger
  | infiniteInteger
  | hugeNumber
  /-- An integer has too many digits to be written, or to be read if their number is given. -/
  | tooManyDigits (read : Option Nat)
  /-- A field was picked from a value that is no object. -/
  | notSubscripted (kind : String)
deriving DecidableEq, Repr

def Misfit.message : Misfit → String
  | noFields kind member => "'" ++ kind ++ "' object has no attribute '" ++ member ++ "'"
  | missingField name => Text.quoted name
  | notIterable kind => "'" ++ kind ++ "' object is not iterable"
  | notInteger kind =>
    "int() argument must be a string, a bytes-like object or a real number, not '" ++ kind ++ "'"
  | notNumber kind => "float() argument must be a string or a real number, not '" ++ kind ++ "'"
  | badInteger text => "invalid literal for int() with base 10: " ++ Text.quoted text
  | badNumber text => "could not convert string to float: " ++ Text.quoted text
  | nanInteger => "cannot convert float NaN to integer"
  | infiniteInteger => "cannot convert float infinity to integer"
  | hugeNumber => "int too large to convert to float"
  | tooManyDigits read =>
    "Exceeds the limit (" ++ toString Numeral.maxDigits ++ " digits) for integer string conversion" ++
      ((read.map fun n => ": value has " ++ toString n ++ " digits").getD "") ++
      "; use sys.set_int_max_str_digits() to increase the limit"
  | notSubscripted "list" => "list indices must be integers or slices, not str"
  | notSubscripted "str" => "string indices must be integers, not 'str'"
  | notSubscripted kind => "'" ++ kind ++ "' object is not subscriptable"

def Misfit.isUnbounded : Misfit → Bool
  | infiniteInteger | hugeNumber => true
  | _ => false

namespace Json

def fields : Json → Except Misfit (List (String × Json))
  | obj fs => .ok fs
  | j => .error (.noFields j.kind "get")

/-- A field that must be there. -/
def required (j : Json) (name : String) : Except Misfit Json :=
  match j with
  | obj fs =>
    match field? name fs with
    | some j => .ok j
    | none => .error (.missingField name)
  | j => .error (.notSubscripted j.kind)

/-- The members of a list, the names of an object, or the characters of a text. -/
def members : Json → Except Misfit (List Json)
  | arr items => .ok items
  | obj fs => .ok (fs.map fun f => str f.1)
  | str s => .ok (s.toList.map fun c => str (String.singleton c))
  | j => .error (.notIterable j.kind)

/-- A value as an integer. A fraction is dropped, and a text is read. -/
def toInt : Json → Except Misfit Int
  | bool b => .ok (if b then 1 else 0)
  | int n => .ok n
  | float x =>
    match Decimal.truncate? x with
    | some n => .ok n
    | none => .error (if x.isNaN then .nanInteger else .infiniteInteger)
  | str s =>
    match Numeral.int? s with
    | some n => .ok n
    | none =>
      match Numeral.excess? s with
      | some digits => .error (.tooManyDigits (some digits))
      | none => .error (.badInteger s)
  | j => .error (.notInteger j.kind)

/-- The digits of an integer with its sign, unless there are too many of them. -/
def intText (n : Int) : Except Misfit String :=
  if Numeral.IsShort n then .ok (toString n) else .error (.tooManyDigits none)

/-- An integer as the nearest double, unless it is beyond all finite ones. -/
def intToFloat (n : Int) : Except Misfit Float :=
  let x := Decimal.ofInt n
  if x.isInf then .error .hugeNumber else .ok x

/-- A value as a double. A text is read. -/
def toFloat : Json → Except Misfit Float
  | bool b => .ok (if b then 1 else 0)
  | int n => intToFloat n
  | float x => .ok x
  | str s =>
    match Numeral.float? s with
    | some x => .ok x
    | none => .error (.badNumber s)
  | j => .error (.notNumber j.kind)

end Json
end CodeTwins
