import CodeTwins.Http.Message
import CodeTwins.Http.Url
import CodeTwins.Json.Shape
import CodeTwins.Settings

/-!
# Connections to a server

A connection sends requests below the address of a server and reads the replies. A reply counts if its
status reports success and its body has the shape that is wanted.
-/
namespace CodeTwins

/-- Requests are answered by the other side, which is in another state afterwards. -/
abbrev Transport (σ : Type) := Http.Request → σ → Outcome × σ

/-- The way to the other side on which values go as texts. -/
def Transport.written {σ : Type} (send : Transport σ) : Transport σ := fun r s =>
  let (outcome, s) := send { r with body := r.body.written } s
  (outcome.written, s)

namespace Client

/-- The address that is used when none is given. -/
def defaultAddress : String := "http://localhost:3000"

/-- An address without a slash at its end. -/
def withoutSlash (address : String) : String :=
  if address.toList.getLast? = some '/' then String.ofList address.toList.dropLast else address

/-- The address of the server: the one given, or that of the environment, or the default. An empty one
counts as absent. -/
def addressOf (given : Option String) (env : Environment) : String :=
  withoutSlash
    (((given.filter (!·.isEmpty)).or (env.given? "DRY_SERVER_URL")).getD defaultAddress)

/-- What can be asked of a server. -/
inductive Action where
  | submit
  | submitAll
  | wipe
  | findSimilar
  | findPairs
  | search
  | checkHealth
deriving DecidableEq, Repr

def Action.words : Action → String
  | submit => "submit element"
  | submitAll => "submit elements"
  | wipe => "wipe elements"
  | findSimilar => "find similar elements"
  | findPairs => "find similar pairs"
  | search => "search"
  | checkHealth => "check health"

/-- Why a server has not done what was asked. -/
inductive Failure where
  | unreachable (action : Action) (address reason : String)
  | refused (action : Action) (status : Nat) (body : String)
  /-- The body of a reply cannot be read. -/
  | unusable (action : Action) (address : String) (status : Nat) (body : String)
  /-- There are not as many ids as elements. -/
  | miscounted (wanted got : Nat)
  /-- A number to be sent or in a reply is beyond all bounds. -/
  | unbounded (m : Misfit)
deriving DecidableEq, Repr

def shownLength : Nat := 200

def Failure.message : Failure → String
  | unreachable action address reason =>
    "Failed to " ++ action.words ++ ": could not reach " ++ address ++ " (" ++ reason ++ ")"
  | refused action status body =>
    "Failed to " ++ action.words ++ " (" ++ toString status ++ "): " ++ body
  | unusable action address _ body =>
    "Failed to " ++ action.words ++ ": invalid response from " ++ address ++ ": " ++
      String.ofList (body.toList.take shownLength)
  | miscounted wanted got =>
    "Failed to submit elements: expected " ++ toString wanted ++ " ids, got " ++ toString got
  | unbounded m => m.message

/-- Whether a failure is foreseen. A number beyond all bounds is not. -/
def Failure.isForeseen : Failure → Bool
  | unbounded _ => false
  | _ => true

end Client

/-- A server at an address, and the way to it. -/
structure Connection (σ : Type) where
  address : String
  send : Transport σ

/-- What is wanted of a server and what it takes. -/
structure Demand where
  action : Client.Action
  method : Http.Method
  /-- The path below the address of the server. -/
  path : String
  query : List (String × String) := []
  body : Content := .empty

namespace Demand

def targetBelow (base path : List Char) : List Char :=
  let start := (Http.spanTo ['#'] base).1
  (if start.getLast? = some '/' then start else start ++ ['/']) ++ Text.trimStart (· == '/') path

/-- The request for a demand. Its own query takes the place of one in the address. -/
def request (d : Demand) (address : String) : Http.Request :=
  let url := Http.Url.ofString address
  let (path, query) := Http.splitTarget (targetBelow url.target d.path.toList)
  { method := d.method
    host := url.host
    path := Http.resolvedPath path
    query := if d.query.isEmpty then query else d.query
    body := d.body }

end Demand

namespace Connection

open Client

variable {σ β : Type}

/-- What comes of a demand, and the other side after it. -/
abbrev Call (σ β : Type) := σ → Except Failure β × σ

def read (c : Connection σ) (d : Demand) (parse : Json → Except Misfit β) :
    Outcome → Except Failure β
  | .timeout reason | .unreachable reason => .error (.unreachable d.action c.address reason)
  | .reply status body =>
    if !isSuccess status then .error (.refused d.action status body.shown)
    else
      match body.value with
      | .error _ => .error (.unusable d.action c.address status body.shown)
      | .ok j =>
        match parse j with
        | .ok b => .ok b
        | .error m =>
          .error (if m.isUnbounded then .unbounded m
            else .unusable d.action c.address status body.shown)

/-- A demand is sent and its reply read. The outcomes are those of a request that goes out: an address
from which no request can be made is not among them. -/
def call (c : Connection σ) (d : Demand) (parse : Json → Except Misfit β) : Call σ β := fun s =>
  let (outcome, s) := c.send (d.request c.address) s
  (c.read d parse outcome, s)

end Connection
end CodeTwins
