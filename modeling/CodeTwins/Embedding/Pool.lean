import CodeTwins.Embedding.Embedder

/-!
# Embedding by several workers

The texts of a batch wait in their order until a worker is free. A worker asks for the chunks of its
text one after the other. The results are collected in any order, up to the first failure. Then the
texts that still wait are dropped, and the workers finish what they are at.
-/
namespace CodeTwins.Embedding

variable {α : Type}

/-- Texts that are embedded together, by no more workers at a time than the cap. -/
structure Batch (α : Type) where
  provider : Provider α
  chunkLimit : Nat
  cap : Nat
  texts : List String

/-- The text that a worker is at: its place in the batch, the chunks that are still to be asked for,
and the vectors of those before them. -/
structure Job (α : Type) where
  place : Nat
  chunks : List String
  vectors : List (Vec α)

/-- The result of a text, with its place in the batch. -/
abbrev Finished (α : Type) := Nat × Except Error (Vec α)

/-- The workers of a batch, with all texts asked for so far, the latest first. What is finished
has not been collected yet. -/
structure Pool (α : Type) where
  asked : List String
  waiting : List (String × Nat)
  running : List (Job α)
  finished : List (Finished α)
  collected : List (Finished α)

/-- What happens next: a free worker takes a text, a worker makes progress, a result is collected,
or a text that waits is dropped. -/
inductive Turn where
  | take
  | work (worker : Nat)
  | collect (result : Nat)
  | drop (waiting : Nat)

namespace Job

variable [Scalar α] (provider : Provider α) (asked : List String)

/-- A worker asks for its next chunk, and is finished if that fails or if no chunk is left. -/
def work (job : Job α) : (Job α ⊕ Finished α) × List String :=
  match job.chunks with
  | [] => (.inr (job.place, combine job.vectors), asked)
  | chunk :: chunks =>
    match provider asked chunk with
    | .error e => (.inr (job.place, .error e), chunk :: asked)
    | .ok v => (.inl ⟨job.place, chunks, job.vectors ++ [v]⟩, chunk :: asked)

end Job

namespace Batch

variable (batch : Batch α)

def workers : Nat :=
  min batch.cap batch.texts.length

def start : Pool α :=
  ⟨[], batch.texts.zipIdx, [], [], []⟩

/-- All vectors in the order of the texts as far as they are collected, or the failure that was
collected. -/
def result (pool : Pool α) : Except Error (List (Option (Vec α))) :=
  gather batch.texts.length pool.collected

/-- Nothing waits, no worker is busy, and every result is collected unless one is a failure. -/
def IsOver (pool : Pool α) : Prop :=
  pool.waiting = [] ∧ pool.running = [] ∧ ((batch.result pool).isOk = true → pool.finished = [])

variable [Scalar α]

/-- The pool after a turn, if it is possible. -/
def turn (pool : Pool α) : Turn → Option (Pool α)
  | .take =>
    match pool.waiting with
    | [] => none
    | (text, place) :: waiting =>
      if pool.running.length < batch.workers then
        let job := ⟨place, chunks batch.chunkLimit text, []⟩
        some { pool with waiting, running := pool.running ++ [job] }
      else none
  | .work worker => do
    let job ← pool.running[worker]?
    match job.work batch.provider pool.asked with
    | (.inl job, asked) => some { pool with asked, running := pool.running.set worker job }
    | (.inr result, asked) =>
      let running := pool.running.eraseIdx worker
      some { pool with asked, running, finished := pool.finished ++ [result] }
  | .collect nth => do
    let result ← pool.finished[nth]?
    if (batch.result pool).isOk then
      let finished := pool.finished.eraseIdx nth
      some { pool with finished, collected := pool.collected ++ [result] }
    else none
  | .drop nth =>
    if nth < pool.waiting.length ∧ ¬ (batch.result pool).isOk then
      some { pool with waiting := pool.waiting.eraseIdx nth }
    else none

/-- The pool after some turns, if they are possible. -/
def run (pool : Pool α) (turns : List Turn) : Option (Pool α) :=
  turns.foldlM batch.turn pool

end Batch

end CodeTwins.Embedding
