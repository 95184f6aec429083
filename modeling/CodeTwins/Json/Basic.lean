/-!
# JSON values

Values of JSON texts. Numbers written without a fraction and an exponent are integers of any size;
the others are doubles, which here may also be infinite or no number. Fields keep the order in which
their names first occur.
-/
namespace CodeTwins

/-- A JSON value. -/
inductive Json where
  | null
  | bool (b : Bool)
  | int (n : Int)
  | float (x : Float)
  | str (s : String)
  | arr (items : List Json)
  | obj (fields : List (String × Json))
deriving Inhabited

namespace Json

/-- Sets a field, in its place if there is one of that name and at the end otherwise. -/
def setField (name : String) (value : Json) : List (String × Json) → List (String × Json)
  | [] => [(name, value)]
  | (n, v) :: rest => if n = name then (n, value) :: rest else (n, v) :: setField name value rest

def field? (name : String) : List (String × Json) → Option Json
  | [] => none
  | (n, v) :: rest => if n = name then some v else field? name rest

/-- The field of an object; none for other values. -/
def get? (j : Json) (name : String) : Option Json :=
  match j with
  | obj fields => field? name fields
  | _ => none

end Json
end CodeTwins
