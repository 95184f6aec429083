import CodeTwins.Client.Calls

/-!
# Submission of elements

Elements are submitted in one request or one by one. Failures that are foreseen are counted and passed
over.
-/
namespace CodeTwins

/-- What has become of submitted elements. -/
structure Submission where
  indexed : Nat := 0
  failed : Nat := 0
  /-- The ids of the indexed elements, in their order. -/
  ids : List String := []
deriving DecidableEq, Repr

namespace Submission

open Client Connection

variable {σ : Type}

/-- Submits elements in one request. If it fails, so do all. -/
def together (c : Connection σ) (es : List Element) : Call σ Submission := fun s =>
  match c.submitAll es s with
  | (.ok ids, s) => (.ok { indexed := ids.length, ids }, s)
  | (.error f, s) => (if f.isForeseen then .ok { failed := es.length } else .error f, s)

/-- Submits an element after others, of which there is a report. -/
def next (c : Connection σ) (report : Submission) (e : Element) : Call σ Submission := fun s =>
  match c.submit e s with
  | (.ok id, s) =>
    (.ok { report with indexed := report.indexed + 1, ids := report.ids ++ [id] }, s)
  | (.error f, s) =>
    (if f.isForeseen then .ok { report with failed := report.failed + 1 } else .error f, s)

def oneByOne (c : Connection σ) (report : Submission) : List Element → Call σ Submission
  | [], s => (.ok report, s)
  | e :: es, s =>
    match next c report e s with
    | (.ok report, s) => oneByOne c report es s
    | (.error f, s) => (.error f, s)

/-- Submits elements. Without any there is no request. -/
def run (c : Connection σ) (batch : Bool) (es : List Element) : Call σ Submission := fun s =>
  if es.isEmpty then (.ok {}, s)
  else if batch then together c es s
  else oneByOne c {} es s

end Submission
end CodeTwins
