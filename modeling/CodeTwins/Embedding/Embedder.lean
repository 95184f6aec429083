import CodeTwins.Embedding.Chunk
import CodeTwins.Embedding.Reply
import CodeTwins.Vector.Mean

/-!
# Embedding texts

A text is embedded chunk by chunk, one request each, and its vector is that of its only chunk or the
mean of all. The first request that fails ends it. What has been asked before is part of the state,
so that a provider may answer the same question differently each time.
-/
namespace CodeTwins.Embedding

/-- A provider of vectors: its answer to a text, after the texts that it has been asked before, the
latest first. -/
abbrev Provider (α : Type) := List String → String → Except Error (Vec α)

/-- An embedder: the provider, if an endpoint is configured, and the limit for chunks. -/
structure Embedder (α : Type) where
  provider : Option (Provider α)
  chunkLimit : Nat

/-- An answer, with all texts asked so far, the latest first. -/
abbrev Asked (β : Type) := Except Error β × List String

variable {α : Type}

/-- Asks for texts one after the other, up to the first failure. -/
def askAll (provider : Provider α) (asked : List String) : List String → Asked (List (Vec α))
  | [] => (.ok [], asked)
  | text :: texts =>
    match provider asked text with
    | .error e => (.error e, text :: asked)
    | .ok v =>
      let (rest, asked) := askAll provider (text :: asked) texts
      (rest.map (v :: ·), asked)

def combine [Scalar α] : List (Vec α) → Except Error (Vec α)
  | [v] => .ok v
  | vs => (Vec.mean? vs).mapError .mixedLengths

namespace Embedder

variable [Scalar α] (embedder : Embedder α)

def embed (asked : List String) (text : String) : Asked (Vec α) :=
  match embedder.provider with
  | none => (.error .noEndpoint, asked)
  | some provider =>
    let (vectors, asked) := askAll provider asked (chunks embedder.chunkLimit text)
    (vectors.bind combine, asked)

/-- Embeds texts one after the other, up to the first failure. -/
def embedEach (asked : List String) : List String → Asked (List (Vec α))
  | [] => (.ok [], asked)
  | text :: texts =>
    match embedder.embed asked text with
    | (.error e, asked) => (.error e, asked)
    | (.ok v, asked) =>
      let (rest, asked) := embedEach asked texts
      (rest.map (v :: ·), asked)

/-- Embeds texts, provided that an endpoint is configured. -/
def embedBatch (asked : List String) (texts : List String) : Asked (List (Vec α)) :=
  match embedder.provider with
  | none => (.error .noEndpoint, asked)
  | some _ => embedder.embedEach asked texts

end Embedder

/-- The limit for chunks that a configured chunk size gives: at least one hundred, and one thousand
for zero. -/
def chunkLimit (chunkSize : Int) : Nat :=
  (max 100 (if chunkSize = 0 then 1000 else chunkSize)).toNat

/-- The results of texts that were finished in some order, each with the place of its text among
`n`: all vectors in the order of the texts, or the error that came first. -/
def gather {β : Type} (n : Nat) (finished : List (Nat × Except Error β)) :
    Except Error (List (Option β)) :=
  finished.foldlM (fun results (i, r) => r.map fun v => results.set i (some v))
    (List.replicate n none)

end CodeTwins.Embedding
