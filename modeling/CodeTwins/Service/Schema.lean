import CodeTwins.Element
import CodeTwins.Http.Message
import CodeTwins.Numeral
import CodeTwins.Text.Trim

/-!
# What requests must look like

Checks of the bodies and the query of requests. All problems of a request are told, in the order of
the fields. A whole number may be written as a text or as a number with a zero fraction.
-/
namespace CodeTwins.Service

/-- What is wrong with a value. -/
inductive Complaint where
  | missing
  | notString
  | notInteger
  | fractional
  | notFinite
  | tooLarge
  | unreadableInteger
  | unreadableNumber
  | belowOne
  | notList
  | notObject
  | notJson
deriving DecidableEq, Repr

def Complaint.message : Complaint → String
  | missing => "Field required"
  | notString => "Input should be a valid string"
  | notInteger => "Input should be a valid integer"
  | fractional => "Input should be a valid integer, got a number with a fractional part"
  | notFinite => "Input should be a finite number"
  | tooLarge => "Unable to parse input string as an integer, exceeded maximum size"
  | unreadableInteger => "Input should be a valid integer, unable to parse string as an integer"
  | unreadableNumber => "Input should be a valid number, unable to parse string as a number"
  | belowOne => "Value error, lineNumber must be at least 1"
  | notList => "Input should be a valid list"
  | notObject => "Input should be a valid dictionary or object to extract fields from"
  | notJson => "JSON decode error"

/-- A complaint with the way to the value. -/
structure Problem where
  path : List String
  complaint : Complaint
deriving DecidableEq, Repr

def Problem.message (p : Problem) : String :=
  if p.path.isEmpty then p.complaint.message
  else String.intercalate "." p.path ++ ": " ++ p.complaint.message

def Problem.summary (problems : List Problem) : String :=
  "Invalid request: " ++ String.intercalate "; " (problems.map message)

/-- A value, or all that is wrong with it. -/
inductive Checked (β : Type) where
  | ok (value : β)
  | bad (problems : List Problem)

namespace Checked

variable {β γ : Type}

/-- A function applied to a value, with the problems of both. -/
def apply : Checked (β → γ) → Checked β → Checked γ
  | ok f, ok x => ok (f x)
  | ok _, bad qs => bad qs
  | bad ps, ok _ => bad ps
  | bad ps, bad qs => bad (ps ++ qs)

instance : Applicative Checked where
  pure := ok
  seq f x := apply f (x ())

/-- The problems of a value, seen from what it is a part of. -/
def within (part : String) : Checked β → Checked β
  | ok x => ok x
  | bad ps => bad (ps.map fun p => { p with path := part :: p.path })

def complain (c : Complaint) : Checked β :=
  bad [⟨[], c⟩]

/-- All values, with the problems of each. -/
def all : List (Checked β) → Checked (List β)
  | [] => ok []
  | x :: xs => List.cons <$> x <*> all xs

end Checked

open Checked

/-- Whether a character can be a part of an integer: a digit of ASCII, a sign or an underscore. -/
def isIntegerPart (c : Char) : Bool :=
  c.isDigit || c == '+' || c == '-' || c == '_'

/-- The integer that a text writes, perhaps with a point and zeros after it. -/
def integerOfText (s : String) : Checked Int :=
  let cs := s.toList
  let core := Text.trimEnd Numeral.isBlank (Text.trimStart Numeral.isBlank cs)
  let whole :=
    match core.dropWhile (· ≠ '.') with
    | '.' :: zeros => if zeros.all (· = '0') then core.takeWhile (· ≠ '.') else core
    | _ => core
  if 4300 < cs.length then complain .tooLarge
  else
    match if whole.all isIntegerPart then Numeral.int? (String.ofList whole) else none with
    | some n => .ok n
    | none => complain .unreadableInteger

/-- The integer of a double without a fraction. Beyond 64 bits there is none. -/
def integerOfFloat (x : Float) : Checked Int :=
  match Decimal.truncate? x with
  | none => complain .notFinite
  | some n =>
    if !Decimal.isIntegral x then complain .fractional
    else if n < -0x8000000000000000 ∨ 0x8000000000000000 < n then complain .tooLarge
    else .ok (min n 0x7FFFFFFFFFFFFFFF)

/-- A value that must be an integer. -/
def integer : Json → Checked Int
  | .bool b => .ok (if b then 1 else 0)
  | .int n => .ok n
  | .float x => integerOfFloat x
  | .str s => integerOfText s
  | _ => complain .notInteger

/-- The double that a text writes. Single underscores within the text do not count. -/
def numberOfText (s : String) : Checked Float :=
  let cs := s.toList
  let core := Text.trimEnd Numeral.isBlank (Text.trimStart Numeral.isBlank cs)
  let spaced := cs.head? = some '_' || cs.getLast? = some '_' || Text.occursIn ['_', '_'] cs
  match Numeral.decimal? core with
  | some x => .ok x
  | none =>
    match if spaced then none else Numeral.decimal? (cs.filter (· ≠ '_')) with
    | some x => .ok x
    | none => complain .unreadableNumber

/-- A value that must be a text. -/
def string : Json → Checked String
  | .str s => .ok s
  | _ => complain .notString

/-- A value that may be null. -/
def nullable {β : Type} (check : Json → Checked β) : Json → Checked (Option β)
  | .null => .ok none
  | j => some <$> check j

/-- A line. No text holds one that is too long. -/
def lineNumber (j : Json) : Checked Int :=
  match integer j with
  | .ok n =>
    if n < 1 then complain .belowOne
    else if Numeral.IsShort n then .ok n
    else complain .tooLarge
  | .bad ps => .bad ps

/-- A field that must be there. -/
def requiredField {β : Type} (fields : List (String × Json)) (name : String)
    (check : Json → Checked β) : Checked β :=
  within name
    (match Json.field? name fields with
    | some j => check j
    | none => complain .missing)

/-- A text that need not be there. -/
def optionalText (fields : List (String × Json)) (name : String) : Checked (Option String) :=
  within name (nullable string ((Json.field? name fields).getD .null))

/-- Metadata of an element. Other fields are passed over. -/
def metadata : Json → Checked Metadata
  | .obj fields =>
    (fun path line name commit file base => ⟨path, line, name, commit, file, base⟩)
      <$> requiredField fields "filePath" string
      <*> requiredField fields "lineNumber" lineNumber
      <*> requiredField fields "elementName" string
      <*> optionalText fields "commitHash"
      <*> optionalText fields "fileHash"
      <*> optionalText fields "basePath"
  | _ => complain .notObject

/-- An element. Its text may be absent here, in which case it is empty. -/
def element : Json → Checked Element
  | .obj fields =>
    (fun m text => ⟨m, text.getD ""⟩)
      <$> requiredField fields "metadata" metadata
      <*> optionalText fields "elementString"
  | _ => complain .notObject

def elements : Json → Checked (List Element)
  | .arr items =>
    all ((items.zipIdx).map fun (j, i) => within (toString i) (element j))
  | _ => complain .notList

def queryValue? (query : List (String × String)) (name : String) : Option String :=
  (query.reverse.find? (·.1 == name)).map (·.2)

/-- A field of a query that is a default unless it is given. -/
def queryField {β : Type} (query : List (String × String)) (name : String) (default : β)
    (check : String → Checked β) : Checked β :=
  match queryValue? query name with
  | none => .ok default
  | some s => within "query" (within name (check s))

def bounds (query : List (String × String)) : Checked (Float × Int) :=
  Prod.mk <$> queryField query "threshold" 0.8 numberOfText <*> queryField query "limit" 10 integerOfText

/-- The two parts of the name of a content type, in lower case. -/
def typeParts (type : String) : Option (List Char × List Char) :=
  let name := Text.trim (type.toList.takeWhile (· ≠ ';'))
  match Text.splitOn '/' (name.map Char.toLower) with
  | [main, sub] => some (main, sub)
  | _ => none

def isJsonType (type : String) : Bool :=
  match typeParts type with
  | some (main, sub) =>
    String.ofList main = "application" &&
      (String.ofList sub = "json" || "+json".toList.isSuffixOf sub)
  | none => false

/-- The value that a request carries, unless its text cannot be read to the end. A text that is not of a
JSON type is a text. -/
def carried : Content → Option (Checked Json)
  | .text _ "" => some (complain .missing)
  | .text type s =>
    if type.all isJsonType then
      match Content.readJson s with
      | .ok j => some (.ok j)
      | .error (.notJson place) => some (within (toString place) (complain .notJson))
      | .error .tooManyDigits => none
    else some (.ok (.str s))
  | .json j => some (.ok j)

end CodeTwins.Service
