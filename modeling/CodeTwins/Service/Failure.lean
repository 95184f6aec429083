import CodeTwins.Embedding.Reply
import CodeTwins.Store.Basic
import CodeTwins.Vector.Matrix

/-!
# Failures of the service

Why a request is not fulfilled, and the status that tells so.
-/
namespace CodeTwins.Service

/-- Kinds of failures. -/
inductive Failure.Kind where
  | invalid
  | unknown
  | configuration
  | provider
  | providerTimeout
  | storage
  | other
deriving DecidableEq, Repr

def Failure.Kind.status : Failure.Kind → Nat
  | invalid => 400
  | unknown => 404
  | providerTimeout => 504
  | configuration | provider | storage | other => 500

/-- Why a request is not fulfilled. -/
inductive Failure where
  /-- An element has no text; in a list, the one at a position. -/
  | noText (position : Option Nat)
  | noQuery
  | unknownElement (id : String)
  | embedding (e : Embedding.Error)
  | store (f : Store.Fault)
  | vectors (u : Vec.Unusable)
  /-- An element cannot be written into a row. -/
  | unwritable (m : Misfit)
  /-- A stored element does not fit into a reply. -/
  | badElement (line : Int)
deriving DecidableEq, Repr

namespace Failure

def kind : Failure → Kind
  | noText _ | noQuery => .invalid
  | unknownElement _ => .unknown
  | embedding .noEndpoint => .configuration
  | embedding (.timedOut _) => .providerTimeout
  | embedding (.item _) => .other
  | embedding _ => .provider
  | store (.missing _) => .storage
  | store _ | vectors _ | unwritable _ | badElement _ => .other

def message : Failure → String
  | noText none => "elementString is required"
  | noText (some i) => "elementString is required at index " ++ toString i
  | noQuery => "Query parameter q is required"
  | unknownElement id => "Element with ID " ++ id ++ " not found"
  | embedding e => e.message
  | store f => f.message
  | vectors u => u.message
  | unwritable m => m.message
  | badElement line => "lineNumber must be at least 1, got " ++ toString line

def status (f : Failure) : Nat :=
  f.kind.status

end Failure
end CodeTwins.Service
