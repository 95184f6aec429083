import CodeTwins.Client.Connection
import CodeTwins.Decimal.Number
import CodeTwins.Element
import CodeTwins.Json.Writer

/-!
# What servers can be asked

The requests that a server understands, with the shapes of the replies to them.
-/
namespace CodeTwins

namespace Demand

/-- That an element be taken, given its JSON value. -/
def taking (element : Json) : Demand where
  action := .submit
  method := .post
  path := "/elements"
  body := .json element

/-- That elements be taken together, given their JSON values. -/
def takingAll (elements : List Json) : Demand where
  action := .submitAll
  method := .post
  path := "/elements/batch"
  body := .json (.arr elements)

def submit (e : Element) : Except Misfit Demand :=
  e.encode.map taking

def submitAll (es : List Element) : Except Misfit Demand :=
  (es.mapM Element.encode).map takingAll

def wipe : Demand where
  action := .wipe
  method := .delete
  path := "/elements"

/-- A number as it is sent, unless it has too many digits. -/
def numberText : Number → Except Misfit String
  | .whole n => Json.intText n
  | .real x => .ok (Decimal.text x)

/-- What bounds an answer, as fields of a query. -/
def boundFields (threshold : Number) (limit : Int) : Except Misfit (List (String × String)) := do
  return [("threshold", ← numberText threshold), ("limit", ← Json.intText limit)]

/-- A demand with bounds in its query. -/
def within (d : Demand) (threshold : Number) (limit : Int) : Except Misfit Demand :=
  (boundFields threshold limit).map fun fields => { d with query := d.query ++ fields }

def findSimilar (id : String) (threshold : Number) (limit : Int) : Except Misfit Demand :=
  within { action := .findSimilar, method := .get, path := "/similar/" ++ id } threshold limit

def findPairs (threshold : Number) (limit : Int) : Except Misfit Demand :=
  within { action := .findPairs, method := .get, path := "/similar/all" } threshold limit

def search (text : String) (threshold : Number) (limit : Int) : Except Misfit Demand :=
  within { action := .search, method := .get, path := "/search", query := [("q", text)] } threshold
    limit

def checkHealth : Demand where
  action := .checkHealth
  method := .get
  path := "/health"

end Demand

namespace Connection

open Client

variable {σ : Type}

/-- What comes of a demand that can be written. Without one there is no request. -/
def callOf {β : Type} (c : Connection σ) (d : Except Misfit Demand)
    (parse : Json → Except Misfit β) : Call σ β := fun s =>
  match d with
  | .ok d => c.call d parse s
  | .error m => (.error (.unbounded m), s)

def listOf {β : Type} (name : String) (item : Json → Except Misfit β) (j : Json) :
    Except Misfit (List β) := do
  (← (← j.required name).members).mapM item

/-- Submits an element. The answer is its id. -/
def submit (c : Connection σ) (e : Element) : Call σ String :=
  c.callOf (Demand.submit e) fun j => do return (← j.required "id").plain

/-- Submits elements in one request. The answer is their ids in the order of the elements. -/
def submitAll (c : Connection σ) (es : List Element) : Call σ (List String) := fun s =>
  let (answer, s) := c.callOf (Demand.submitAll es) (listOf "ids" fun j => .ok j.plain) s
  match answer with
  | .ok ids =>
    (if ids.length = es.length then .ok ids else .error (.miscounted es.length ids.length), s)
  | .error f => (.error f, s)

/-- Deletes all elements. The answer is their number. -/
def wipe (c : Connection σ) : Call σ Int :=
  c.call .wipe fun j => do (← j.required "deletedCount").toInt

def findSimilar (c : Connection σ) (id : String) (threshold : Number) (limit : Int) :
    Call σ (List (Element Json)) :=
  c.callOf (Demand.findSimilar id threshold limit) (listOf "similarElements" Element.ofJson)

def findPairs (c : Connection σ) (threshold : Number) (limit : Int) :
    Call σ (List (SimilarPair Json)) :=
  c.callOf (Demand.findPairs threshold limit) (listOf "pairs" SimilarPair.ofJson)

def search (c : Connection σ) (text : String) (threshold : Number) (limit : Int) :
    Call σ (List (SearchResult Json)) :=
  c.callOf (Demand.search text threshold limit) (listOf "results" SearchResult.ofJson)

def fieldName? : Json → Option String
  | .str s => some s
  | .arr _ | .obj _ => none
  | j => some j.write

def fieldOf? (j : Json) : Option (String × Json) :=
  match j.members with
  | .ok [name, value] => (fieldName? name).map fun n => (n, value)
  | _ => none

/-- The fields of an object, or of a list of names with values. -/
def fieldsOf (j : Json) : Except Misfit (List (String × Json)) :=
  match j with
  | .obj fields => .ok fields
  | j => do
    match (← j.members).mapM fieldOf? with
    | some fields =>
      return fields.foldl (fun out (name, value) => Json.setField name value out) []
    | none => .error (.noFields j.kind "keys")

def checkHealth (c : Connection σ) : Call σ (List (String × Json)) :=
  c.call .checkHealth fieldsOf

end Connection
end CodeTwins
