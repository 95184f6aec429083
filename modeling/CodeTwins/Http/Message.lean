import CodeTwins.Json.Reader
import CodeTwins.Json.Writer

/-!
# Messages

Requests and what comes of them. The JSON value of a body is kept as a value where the sender has
written one; text from elsewhere is read when it is needed.
-/
namespace CodeTwins

/-- What a message carries. -/
inductive Content where
  /-- A JSON value, however it is written. -/
  | json (value : Json)
  /-- A text, with the name of its type if that is known. -/
  | text (type : Option String) (s : String)

namespace Content

def empty : Content :=
  text none ""

def shown : Content → String
  | json value => value.write
  | text _ s => s

/-- The content as it is sent: a JSON value as its text. -/
def written : Content → Content
  | json value => text (some "application/json") value.write
  | text type s => text type s

/-- The JSON value of a text. A byte order mark at its start is passed over. -/
def readJson (s : String) : Except Json.Refusal Json :=
  match s.toList with
  | '\uFEFF' :: rest => Json.parse (String.ofList rest)
  | _ => Json.parse s

/-- The content as a JSON value, or else why it is none. -/
def value : Content → Except Json.Refusal Json
  | json value => .ok value
  | text _ s => readJson s

end Content

/-- What comes of a request: a reply, or no reply in time, or no connection. -/
inductive Outcome where
  | reply (status : Nat) (body : Content)
  | timeout (message : String)
  | unreachable (message : String)

def Outcome.written : Outcome → Outcome
  | .reply status body => .reply status body.written
  | .timeout message => .timeout message
  | .unreachable message => .unreachable message

def isSuccess (status : Nat) : Bool :=
  200 ≤ status && status < 300

/-- A reply that reports success, with a JSON value as its body. -/
inductive Outcome.Carries : Outcome → Json → Prop where
  | reply {status : Nat} {body : Content} {j : Json} (hstatus : isSuccess status = true)
      (hvalue : body.value = .ok j) : Carries (.reply status body) j

namespace Http

/-- What a request asks for. -/
inductive Method where
  | get
  | post
  | delete
  | other (name : String)
deriving DecidableEq, Repr

/-- A request. -/
structure Request where
  method : Method
  host : String := ""
  path : String
  query : List (String × String) := []
  body : Content := .empty

/-- A reply. -/
structure Response where
  status : Nat
  body : Json

end Http
end CodeTwins
