import CodeTwins.Element

/-!
# Tables of the store

The records with the set of their ids, and the cache of vectors. Records are listed in the order in
which their ids were first stored since the last wipe; the cache is kept apart from them, and each of
its entries counts until a moment that is set when it is written.
-/
namespace CodeTwins.Store

/-- A stored element with its vector. -/
structure Record (ε ν : Type) where
  id : String
  element : ε
  vector : ν
deriving DecidableEq, Repr

/-- A vector in the cache. -/
structure Entry (ν τ : Type) where
  key : CacheKey
  vector : ν
  expires : τ
deriving DecidableEq, Repr

/-- The tables. -/
structure Tables (ε ν τ : Type) where
  records : List (Record ε ν) := []
  ids : List String := []
  cache : List (Entry ν τ) := []
deriving DecidableEq, Repr

/-- How much the tables hold. -/
structure Stats where
  records : Nat
  live : Nat
  expired : Nat
deriving DecidableEq, Repr

namespace Tables

variable {ε ν τ : Type}

def get? (t : Tables ε ν τ) (id : String) : Option (Record ε ν) :=
  t.records.find? (·.id == id)

/-- The records whose id is in the set, in its order. Ids without a record are passed over. -/
def all (t : Tables ε ν τ) : List (Record ε ν) :=
  t.ids.filterMap t.get?

/-- Stores a record in place of the one with its id. The id keeps its place in the set. -/
def put (t : Tables ε ν τ) (r : Record ε ν) : Tables ε ν τ :=
  { t with
    records := t.records.filter (·.id != r.id) ++ [r]
    ids := if t.ids.contains r.id then t.ids else t.ids ++ [r.id] }

/-- Stores records, the last of those with one id. -/
def putAll (t : Tables ε ν τ) (rs : List (Record ε ν)) : Tables ε ν τ :=
  rs.foldl put t

/-- Removes all records in the set of ids, and clears the set. The number of ids is returned. -/
def clear (t : Tables ε ν τ) : Tables ε ν τ × Nat :=
  ({ t with records := t.records.filter (!t.ids.contains ·.id), ids := [] }, t.ids.length)

def vanish (t : Tables ε ν τ) (id : String) : Tables ε ν τ :=
  { t with records := t.records.filter (·.id != id) }

/-- Caches a vector until a moment, in place of the one with its key. -/
def cacheUntil (t : Tables ε ν τ) (expires : τ) (key : CacheKey) (vector : ν) : Tables ε ν τ :=
  { t with cache := t.cache.filter (·.key != key) ++ [⟨key, vector, expires⟩] }

/-- Caches vectors until a moment, the last of those with one key. -/
def cacheAllUntil (t : Tables ε ν τ) (expires : τ) (entries : List (CacheKey × ν)) : Tables ε ν τ :=
  entries.foldl (fun t (key, vector) => t.cacheUntil expires key vector) t

variable [LT τ] [DecidableRel (α := τ) (· < ·)]

/-- The cached vector of a key, if it has not expired. -/
def cached? (t : Tables ε ν τ) (now : τ) (key : CacheKey) : Option ν :=
  (t.cache.find? fun e => e.key == key && decide (now < e.expires)).map (·.vector)

/-- Removes the expired entries of the cache. Their number is returned. -/
def purge (t : Tables ε ν τ) (now : τ) : Tables ε ν τ × Nat :=
  ({ t with cache := t.cache.filter fun e => decide (now < e.expires) },
    t.cache.countP fun e => !decide (now < e.expires))

def stats (t : Tables ε ν τ) (now : τ) : Stats where
  records := t.ids.length
  live := t.cache.countP fun e => decide (now < e.expires)
  expired := t.cache.countP fun e => !decide (now < e.expires)

end Tables
end CodeTwins.Store
