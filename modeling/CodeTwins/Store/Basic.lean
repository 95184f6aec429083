import CodeTwins.Store.Tables

/-!
# The store

Tables with transactions. An operation that succeeds saves all that was written up to it. One that is
refused goes back to what was saved. A line number that does not fit into the tables stops a batch of
cache writes in the middle: the entries before it are written, and the next operation decides whether
they are saved.
-/
namespace CodeTwins

/-- A store: what is saved, what is written, and for how long the cache keeps a vector. -/
structure Store (ε ν τ : Type) where
  saved : Store.Tables ε ν τ := {}
  written : Store.Tables ε ν τ := {}
  ttl : τ
  isOpen : Bool := true

namespace Store

/-- Why an operation failed. -/
inductive Fault where
  | closed
  /-- A column that must have a value got none. -/
  | missing (column : String)
  | lineTooLarge
deriving DecidableEq, Repr

def Fault.message : Fault → String
  | closed => "Cannot operate on a closed database."
  | missing column => "Store operation failed: NOT NULL constraint failed: " ++ column
  | lineTooLarge => "Python int too large to convert to SQLite INTEGER"

/-- The result of an operation, and the store after it. -/
abbrev Result (ε ν τ β : Type) := Except Fault β × Store ε ν τ

variable {ε ν τ : Type}

/-- A store without records. -/
def empty (ttl : τ) : Store ε ν τ :=
  { ttl := ttl }

/-- Runs an operation and saves what it and those before it have written. -/
def transact {β : Type} (s : Store ε ν τ) (f : Tables ε ν τ → Tables ε ν τ × β) :
    Result ε ν τ β :=
  if s.isOpen then
    let (t, b) := f s.written
    (.ok b, { s with saved := t, written := t })
  else (.error .closed, s)

/-- A write that the tables refuse. All that was not saved is lost. -/
def refuse {β : Type} (s : Store ε ν τ) (column : String) : Result ε ν τ β :=
  if s.isOpen then (.error (.missing column), { s with written := s.saved })
  else (.error .closed, s)

/-- Closes the store. What was not saved is lost. -/
def close (s : Store ε ν τ) : Store ε ν τ :=
  { s with written := s.saved, isOpen := false }

def reopen (s : Store ε ν τ) : Store ε ν τ :=
  { s with written := s.saved, isOpen := true }

/-- Stores records together. They are such as rows can be made of, which is for the one who stores them
to see to. -/
def putAll (s : Store ε ν τ) (rs : List (Record ε ν)) : Result ε ν τ Unit :=
  if rs.isEmpty then (.ok (), s) else s.transact fun t => (t.putAll rs, ())

def put (s : Store ε ν τ) (r : Record ε ν) : Result ε ν τ Unit :=
  s.putAll [r]

def get? (s : Store ε ν τ) (id : String) : Result ε ν τ (Option (Record ε ν)) :=
  s.transact fun t => (t, t.get? id)

/-- All records, in the order in which their ids were first stored. -/
def all (s : Store ε ν τ) : Result ε ν τ (List (Record ε ν)) :=
  s.transact fun t => (t, t.all)

/-- Removes all records and returns the number of their ids. The cache stays. -/
def clear (s : Store ε ν τ) : Result ε ν τ Nat :=
  s.transact Tables.clear

def vanish (s : Store ε ν τ) (id : String) : Store ε ν τ :=
  { s with saved := s.saved.vanish id, written := s.written.vanish id }

/-- Line numbers that fit into the tables: those of 64 bits with a sign. -/
def fits (line : Int) : Bool :=
  -0x8000000000000000 ≤ line && line < 0x8000000000000000

variable [LT τ] [DecidableRel (α := τ) (· < ·)]

/-- The cached vectors of keys, place by place. -/
def cachedAll (s : Store ε ν τ) (now : τ) (keys : List (Option CacheKey)) :
    Result ε ν τ (List (Option ν)) :=
  if keys.all Option.isNone then (.ok (keys.map fun _ => none), s)
  else if !s.isOpen then (.error .closed, s)
  else if keys.any (·.any (!fits ·.lineNumber)) then (.error .lineTooLarge, s)
  else s.transact fun t => (t, keys.map (·.bind (t.cached? now)))

def cached? (s : Store ε ν τ) (now : τ) (key : CacheKey) : Result ε ν τ (Option ν) :=
  let (found, s) := s.cachedAll now [some key]
  (found.map fun l => l.head?.join, s)

def purge (s : Store ε ν τ) (now : τ) : Result ε ν τ Nat :=
  s.transact (·.purge now)

def stats (s : Store ε ν τ) (now : τ) : Result ε ν τ Stats :=
  s.transact fun t => (t, t.stats now)

omit [LT τ] [DecidableRel (α := τ) (· < ·)]

variable [Add τ]

/-- Caches vectors for as long as the store keeps them. The entries before a line number that does
not fit are written and not saved. -/
def cacheAll (s : Store ε ν τ) (now : τ) (entries : List (CacheKey × ν)) : Result ε ν τ Unit :=
  if entries.isEmpty then (.ok (), s)
  else if !s.isOpen then (.error .closed, s)
  else if entries.all (fits ·.1.lineNumber) then
    s.transact fun t => (t.cacheAllUntil (now + s.ttl) entries, ())
  else
    let before := entries.takeWhile (fits ·.1.lineNumber)
    (.error .lineTooLarge, { s with written := s.written.cacheAllUntil (now + s.ttl) before })

def cache (s : Store ε ν τ) (now : τ) (key : CacheKey) (vector : ν) : Result ε ν τ Unit :=
  s.cacheAll now [(key, vector)]

/-- Why a row of the cache, whose key may lack a text, is not written. -/
def rowFault (key : CacheKey (Option String)) : Option Fault :=
  if !fits key.lineNumber then some .lineTooLarge
  else if key.fileHash.isNone then some (.missing "embedding_cache.file_hash")
  else if key.elementName.isNone then some (.missing "embedding_cache.element_name")
  else none

/-- The key, if it lacks no text. -/
def completeKey (key : CacheKey (Option String)) : Option CacheKey :=
  match key.fileHash, key.elementName with
  | some hash, some name => some ⟨hash, name, key.lineNumber⟩
  | _, _ => none

/-- Caches vectors under keys that may lack a text. The first fault decides. No row from there on is
written, so that of a key which lacks a text only the line number counts. -/
def cacheRows (s : Store ε ν τ) (now : τ) (rows : List (CacheKey (Option String) × ν)) :
    Result ε ν τ Unit :=
  match rows.findSome? (rowFault ·.1) with
  | some (.missing column) => s.refuse column
  | _ => s.cacheAll now
      (rows.map fun (key, v) => ((completeKey key).getD ⟨"", "", key.lineNumber⟩, v))

end Store
end CodeTwins
