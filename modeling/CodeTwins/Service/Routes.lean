import CodeTwins.Http.Message
import CodeTwins.Http.Url
import CodeTwins.Service.Indexing
import CodeTwins.Service.Query
import CodeTwins.Service.Schema

/-!
# Requests to the service

What a request asks for, and the reply to it. A failed request is answered with the words for the
failure; a request for what does not exist is answered before anything else is looked at.
-/
namespace CodeTwins.Service

open Http

/-- What can be asked for. -/
inductive Route where
  | elements
  | batch
  | pairs
  | similar (id : String)
  | search
  | health
deriving DecidableEq, Repr

namespace Route

/-- What a path without further slashes at its end leads to. -/
def ofExactPath (path : String) : Option Route :=
  match (Text.splitOn '/' path.toList).map String.ofList with
  | ["", "elements"] => some elements
  | ["", "elements", "batch"] => some batch
  | ["", "similar", "all"] => some pairs
  | ["", "similar", id] => if id.isEmpty then none else some (similar id)
  | ["", "search"] => some search
  | ["", "health"] => some health
  | _ => none

/-- What a path leads to. Slashes at its end do not count. -/
def ofPath (path : String) : Option Route :=
  (ofExactPath path).or
    (ofExactPath (String.ofList (Text.trimEnd (· = '/') path.toList)))

def allows (route : Route) (method : Method) : Bool :=
  match route, method with
  | elements, .post | elements, .delete | batch, .post => true
  | pairs, .get | similar _, .get | search, .get | health, .get => true
  | _, _ => false

end Route

def errorResponse (status : Nat) (message : String) : Response :=
  ⟨status, .obj [("error", .str (if message.isEmpty then "Internal server error" else message))]⟩

def detailResponse (status : Nat) (detail : String) : Response :=
  ⟨status, .obj [("detail", .str detail)]⟩

variable {τ β : Type}

def reply (a : Answer Float τ β) (body : β → Except Failure Json) : Response × Service Float τ :=
  match a with
  | (.error e, s) => (errorResponse e.status e.message, s)
  | (.ok b, s) =>
    match body b with
    | .ok j => (⟨200, j⟩, s)
    | .error e => (errorResponse e.status e.message, s)

/-- Runs an action on what has been checked, or tells the problems. -/
def checked {γ : Type} (s : Service Float τ) (c : Checked γ)
    (run : γ → Response × Service Float τ) : Response × Service Float τ :=
  match c with
  | .ok x => run x
  | .bad ps => (errorResponse 400 (Problem.summary ps), s)

/-- Runs an action on what a body holds, or tells the problems. -/
def checkedBody {γ : Type} (s : Service Float τ) (body : Content) (check : Json → Checked γ)
    (run : γ → Response × Service Float τ) : Response × Service Float τ :=
  match carried body with
  | some (.ok j) => s.checked (check j) run
  | some (.bad ps) => (errorResponse 400 (Problem.summary ps), s)
  | none => (detailResponse 400 "There was an error parsing the body", s)

/-- An element in a reply. Its line must be one that requests may name. -/
def elementJson (e : Element) : Except Failure Json :=
  if e.metadata.lineNumber < 1 then .error (.badElement e.metadata.lineNumber)
  else .ok e.loose.toJson

def pairJson (p : Scored Float (Element × Element)) : Except Failure Json := do
  let first ← elementJson p.item.1
  let second ← elementJson p.item.2
  return .obj [("element1", first), ("element2", second), ("similarity", .float p.score)]

def resultJson (r : Scored Float Element) : Except Failure Json := do
  return .obj [("element", ← elementJson r.item), ("similarity", .float r.score)]

def listJson {γ : Type} (name : String) (f : γ → Except Failure Json) (l : List γ) :
    Except Failure Json := do
  return .obj [(name, .arr (← l.mapM f))]

variable [LT τ] [DecidableRel (α := τ) (· < ·)] [Add τ]

/-- The reply to a request that asks for what exists. The text of the time is given. -/
def answer (time : String) (s : Service Float τ) (route : Route) (r : Request) :
    Response × Service Float τ :=
  match route, r.method with
  | .elements, .delete =>
    reply (s.onStore (·.clear)) fun n =>
      .ok (.obj [("success", .bool true), ("deletedCount", .int n)])
  | .elements, _ =>
    s.checkedBody r.body element fun e =>
      reply (s.index e) fun id => .ok (.obj [("id", .str id)])
  | .batch, _ =>
    s.checkedBody r.body elements fun es =>
      reply (s.indexBatch es) fun ids => .ok (.obj [("ids", .arr (ids.map .str))])
  | .pairs, _ =>
    s.checked (bounds r.query) fun (threshold, limit) =>
      reply (s.findPairs threshold limit) (listJson "pairs" pairJson)
  | .similar id, _ =>
    s.checked (bounds r.query) fun (threshold, limit) =>
      reply (s.findSimilar id threshold limit) (listJson "similarElements" elementJson)
  | .search, _ =>
    s.checked (bounds r.query) fun (threshold, limit) =>
      reply (s.search ((queryValue? r.query "q").getD "") threshold limit)
        (listJson "results" resultJson)
  | .health, _ => (⟨200, .obj [("status", .str "ok"), ("timestamp", .str time)]⟩, s)

/-- The reply to a request, and the service after it. -/
def respond (time : String) (s : Service Float τ) (r : Request) : Response × Service Float τ :=
  match Route.ofPath r.path with
  | none => (detailResponse 404 "Not Found", s)
  | some route =>
    if route.allows r.method then s.answer time route r
    else (detailResponse 405 "Method Not Allowed", s)

end CodeTwins.Service
