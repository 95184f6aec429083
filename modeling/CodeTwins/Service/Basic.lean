import CodeTwins.Element
import CodeTwins.Embedding.Embedder
import CodeTwins.Service.Failure
import CodeTwins.Store.Basic

/-!
# The service

A store and an embedder, with a supply of ids for new records and a clock. Its actions take the
service to the service after them.
-/
namespace CodeTwins

/-- The service. Ids are drawn from a sequence, and what the provider has been asked is remembered,
the latest first. -/
structure Service (α τ : Type) where
  store : Store Element (Vec α) τ
  embedder : Embedding.Embedder α
  ids : Nat → String
  drawn : Nat := 0
  asked : List String := []
  now : τ

namespace Service

variable {α τ β γ : Type}

/-- What an action comes to, and the service after it. -/
abbrev Answer (α τ β : Type) := Except Failure β × Service α τ

/-- One action after another. The second does not take place if the first fails. -/
def Answer.andThen (a : Answer α τ β) (next : β → Service α τ → Answer α τ γ) : Answer α τ γ :=
  match a with
  | (.ok b, s) => next b s
  | (.error e, s) => (.error e, s)

def onStore (s : Service α τ)
    (f : Store Element (Vec α) τ → Store.Result Element (Vec α) τ β) : Answer α τ β :=
  let (result, store) := f s.store
  (result.mapError .store, { s with store })

def onEmbedder (s : Service α τ)
    (f : Embedding.Embedder α → List String → Embedding.Asked β) : Answer α τ β :=
  let (result, asked) := f s.embedder s.asked
  (result.mapError .embedding, { s with asked })

def drawIds (s : Service α τ) (n : Nat) : List String × Service α τ :=
  ((List.range n).map fun i => s.ids (s.drawn + i), { s with drawn := s.drawn + n })

end Service
end CodeTwins
