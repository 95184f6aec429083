import CodeTwins.Json.Shape
import CodeTwins.Toml.Moment

/-!
# Values of TOML documents

Values are those of JSON without null, and dates and times. They are taken as numbers and texts like
JSON values.
-/
namespace CodeTwins.Toml

/-- A value of a document. -/
inductive Value where
  | bool (b : Bool)
  | int (n : Int)
  | float (x : Float)
  | str (s : String)
  | moment (m : Moment)
  | array (items : List Value)
  | table (fields : List (String × Value))
deriving Inhabited

/-- The fields of a table, in the order in which their names first occur. -/
abbrev Fields := List (String × Value)

def field? (name : String) : Fields → Option Value
  | [] => none
  | (n, v) :: rest => if n = name then some v else field? name rest

/-- Sets a field, in its place if there is one of that name and at the end otherwise. -/
def setField (name : String) (value : Value) : Fields → Fields
  | [] => [(name, value)]
  | (n, v) :: rest => if n = name then (n, value) :: rest else (n, v) :: setField name value rest

namespace Value

def kind : Value → String
  | bool _ => "bool"
  | int _ => "int"
  | float _ => "float"
  | str _ => "str"
  | moment m => m.kind
  | array _ => "list"
  | table _ => "dict"

mutual

def shown : Value → String
  | bool b => if b then "True" else "False"
  | int n => toString n
  | float x => Decimal.text x
  | str s => Text.quoted s
  | moment m => m.shown
  | array items => "[" ++ shownItems items ++ "]"
  | table fields => "\x7b" ++ shownFields fields ++ "\x7d"

def shownItems : List Value → String
  | [] => ""
  | [v] => shown v
  | v :: vs => shown v ++ ", " ++ shownItems vs

def shownFields : List (String × Value) → String
  | [] => ""
  | [(n, v)] => Text.quoted n ++ ": " ++ shown v
  | (n, v) :: rest => Text.quoted n ++ ": " ++ shown v ++ ", " ++ shownFields rest

end

/-- A value as text: a string or a date as it is written, any other value as it is shown. -/
def plain : Value → String
  | str s => s
  | moment m => m.text
  | v => v.shown

mutual

/-- Whether no integer in a value is too long to be shown. -/
def isShowable : Value → Bool
  | int n => decide (Numeral.IsShort n)
  | array items => areShowable items
  | table fields => areShowableFields fields
  | _ => true

def areShowable : List Value → Bool
  | [] => true
  | v :: vs => isShowable v && areShowable vs

def areShowableFields : List (String × Value) → Bool
  | [] => true
  | (_, v) :: rest => isShowable v && areShowableFields rest

end

/-- Whether a value counts as given: not false, zero or empty. -/
def isGiven : Value → Bool
  | bool b => b
  | int n => n != 0
  | float x => x != 0
  | str s => !s.isEmpty
  | moment _ => true
  | array items => !items.isEmpty
  | table fields => !fields.isEmpty

/-- The fields of a table, of which a member is wanted. -/
def fieldsFor (member : String) : Value → Except Misfit Fields
  | table fields => .ok fields
  | v => .error (.noFields v.kind member)

/-- A value as an integer. A fraction is dropped, and a text is read. -/
def toInt : Value → Except Misfit Int
  | bool b => (Json.bool b).toInt
  | int n => .ok n
  | float x => (Json.float x).toInt
  | str s => (Json.str s).toInt
  | v => .error (.notInteger v.kind)

/-- A value as text, unless it cannot be shown. -/
def toText (v : Value) : Except Misfit String :=
  if v.isShowable then .ok v.plain else .error (.tooManyDigits none)

/-- A value as a double. A text is read. -/
def toFloat : Value → Except Misfit Float
  | bool b => (Json.bool b).toFloat
  | int n => (Json.int n).toFloat
  | float x => .ok x
  | str s => (Json.str s).toFloat
  | v => .error (.notNumber v.kind)

end Value
end CodeTwins.Toml
