import CodeTwins.Service.Routes
import CodeTwins.Text.Utf8

/-!
# Requests as they arrive

The body of a request arrives as bytes, with the name of their type. The framework that the service
runs in reads them where the request takes a route that wants a value, and shows pages of its own. What
does not come through is told in the framework's words.
-/
namespace CodeTwins.Service

open Http

/-- What the bytes of a JSON body are read as. -/
inductive Reading where
  | value (j : Json)
  /-- A text that ceases to be JSON at a place. -/
  | refused (place : Nat)
  /-- Bytes that are no text, or a text that cannot be read to its end. -/
  | unreadable

/-- What the framework brings: how it reads bodies, and pages of its own, which are always shown. -/
structure Framework where
  read : List UInt8 → Reading
  page? : String → Option Response
  isSuccess_page : ∀ path page, page? path = some page → isSuccess page.status = true

/-- A framework that reads UTF-8, without pages of its own. -/
def Framework.plain : Framework where
  read bytes :=
    match Utf8.decode bytes with
    | .error _ => .unreadable
    | .ok text =>
      match Content.readJson (String.ofList text) with
      | .ok j => .value j
      | .error (.notJson place) => .refused place
      | .error .tooManyDigits => .unreadable
  page? _ := none
  isSuccess_page := nofun

/-- A request with the bytes of its body and the name of their type, if that is given. -/
structure Arrival where
  method : Method
  path : String
  query : List (String × String) := []
  type : Option String := none
  bytes : List UInt8 := []

namespace Arrival

/-- The route that a request takes. -/
def route? (a : Arrival) : Option Route :=
  (Route.ofPath a.path).filter (·.allows a.method)

/-- Whether the bytes are read: those of a JSON type, on a route to which something is posted. -/
def isRead (a : Arrival) : Bool :=
  a.route?.isSome && a.method == .post && !a.bytes.isEmpty && a.type.all isJsonType

/-- The body where the bytes are not read. They count as a text, whatever it is. -/
def unread (a : Arrival) : Content :=
  if a.bytes.isEmpty then .empty else .json (.str (String.ofList (Utf8.lossy a.bytes)))

def request (a : Arrival) (body : Content) : Request :=
  { method := a.method, path := a.path, query := a.query, body }

end Arrival

/-- Whether a page is shown to those who use a method. -/
def showsPage : Method → Bool
  | .get => true
  | .other name => name == "HEAD"
  | _ => false

variable {τ : Type} [LT τ] [DecidableRel (α := τ) (· < ·)] [Add τ]

/-- The reply to a request as it arrives, and the service after it. -/
def handle (w : Framework) (time : String) (s : Service Float τ) (a : Arrival) :
    Response × Service Float τ :=
  match w.page? a.path with
  | some page => (if showsPage a.method then page else detailResponse 405 "Method Not Allowed", s)
  | none =>
    if a.isRead then
      match w.read a.bytes with
      | .value j => s.respond time (a.request (.json j))
      | .refused place => (errorResponse 400 (Problem.summary [⟨[toString place], .notJson⟩]), s)
      | .unreadable => (detailResponse 400 "There was an error parsing the body", s)
    else s.respond time (a.request a.unread)

end CodeTwins.Service
