import CodeTwins.Service.Basic
import CodeTwins.Similarity

/-!
# Questions to the service

What is like a stored element, like a vector or like a text, and which elements are like each other.
-/
namespace CodeTwins.Service

variable {α τ : Type} [Scalar α]

def findSimilar (s : Service α τ) (id : String) (threshold : α) (limit : Int) :
    Answer α τ (List Element) :=
  (s.onStore (·.get? id)).andThen fun target s =>
    match target with
    | none => (.error (.unknownElement id), s)
    | some target =>
      (s.onStore (·.all)).andThen fun records s =>
        (.ok (Similarity.alike target threshold limit records), s)

def searchVector (s : Service α τ) (v : Vec α) (threshold : α) (limit : Int) :
    Answer α τ (List (Scored α Element)) :=
  (s.onStore (·.all)).andThen fun records s =>
    (.ok (Similarity.nearest v threshold limit records), s)

/-- The elements most like a text, which must not be empty. -/
def search (s : Service α τ) (text : String) (threshold : α) (limit : Int) :
    Answer α τ (List (Scored α Element)) :=
  if text.isEmpty then (.error .noQuery, s)
  else
    (s.onEmbedder fun embedder asked => embedder.embed asked text).andThen fun v s =>
      s.searchVector v threshold limit

def findPairs (s : Service α τ) (threshold : α) (limit : Int) :
    Answer α τ (List (Scored α (Element × Element))) :=
  (s.onStore (·.all)).andThen fun records s =>
    ((Similarity.closest threshold limit records).mapError .vectors |>.map fun pairs =>
      pairs.map fun p => ⟨p.score, (p.item.1.element, p.item.2.element)⟩, s)

end CodeTwins.Service
