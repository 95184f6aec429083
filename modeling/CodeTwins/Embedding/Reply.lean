import CodeTwins.Http.Message
import CodeTwins.Json.Shape
import CodeTwins.Vector.Scalar

/-!
# Replies of an embedding provider

What comes of asking a provider for the vector of a text, and how a reply is read: a success whose
body is JSON with a list of numbers at `data[0].embedding`.
-/
namespace CodeTwins

namespace Embedding

/-- Why a text has no vector. -/
inductive Error where
  | noEndpoint
  /-- No reply came within the time limit, given as it is written. -/
  | timedOut (limit : String)
  | unreachable (reason : String)
  | refused (status : Nat) (body : String)
  | unusable (status : Nat) (body : String)
  /-- An item of the vector is not a number. -/
  | item (m : Misfit)
  /-- The chunks of a text have vectors of these lengths. -/
  | mixedLengths (lengths : List Nat)
deriving DecidableEq, Repr

def Error.message : Error → String
  | noEndpoint => "EMBEDDING_API_URL is not configured"
  | timedOut limit => "Embedding request timed out after " ++ limit ++ "s"
  | unreachable reason => "Embedding request failed: " ++ reason
  | refused status body => "Embedding API error (" ++ toString status ++ "): " ++ body
  | unusable _ _ => "Invalid response format from embedding API"
  | item m => m.message
  | mixedLengths lengths =>
    "Chunk embeddings have mismatched dimensions: [" ++
      String.intercalate ", " (lengths.map toString) ++ "]"

def vectorItems? (j : Json) : Option (List Json) := do
  match ← j.get? "data" with
  | .arr (first :: _) =>
    match ← first.get? "embedding" with
    | .arr items => some items
    | _ => none
  | _ => none

def vectorOf (limit : String) : Outcome → Except Error (Vec Float)
  | .timeout _ => .error (.timedOut limit)
  | .unreachable reason => .error (.unreachable reason)
  | .reply status body =>
    if !isSuccess status then .error (.refused status body.shown)
    else
      match body.value.toOption.bind vectorItems? with
      | none => .error (.unusable status body.shown)
      | some items => (items.mapM Json.toFloat).mapError .item

end Embedding
end CodeTwins
