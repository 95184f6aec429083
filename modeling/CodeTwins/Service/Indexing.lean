import CodeTwins.Service.Basic

/-!
# Indexing

An element of a file whose hash is known gets its vector from the cache if it can, and otherwise from
the embedder, in which case the vector is cached. The element is stored with it under a new id. A
list of elements is looked up, embedded, cached and stored as a whole.
-/
namespace CodeTwins.Service

variable {α τ : Type} [Scalar α] [LT τ] [DecidableRel (α := τ) (· < ·)] [Add τ]

/-- The vector of an element: that in the cache, or else a new one. -/
def vectorFor (s : Service α τ) (e : Element) : Answer α τ (Vec α) :=
  let embed (s : Service α τ) := s.onEmbedder fun embedder asked => embedder.embed asked e.text
  match e.metadata.cacheKey with
  | none => embed s
  | some key =>
    (s.onStore (·.cached? s.now key)).andThen fun found s =>
      match found with
      | some v => (.ok v, s)
      | none =>
        (embed s).andThen fun v s =>
          (s.onStore (·.cache s.now key v)).andThen fun _ s => (.ok v, s)

/-- Stores elements with their vectors under new ids. All elements are written as JSON before the first
of them is stored. -/
def storeAll (s : Service α τ) (elements : List Element) (vectors : List (Vec α)) :
    Answer α τ (List String) :=
  let (ids, s) := s.drawIds elements.length
  let records := (ids.zip (elements.zip vectors)).map fun (id, e, v) => ⟨id, e, v⟩
  match elements.mapM Element.encode with
  | .ok _ => (s.onStore (·.putAll records)).andThen fun _ s => (.ok ids, s)
  | .error m => (.error (.unwritable m), s)

def index (s : Service α τ) (e : Element) : Answer α τ String :=
  if e.text.isEmpty then (.error (.noText none), s)
  else
    (s.vectorFor e).andThen fun v s =>
      (s.storeAll [e] [v]).andThen fun ids s => (.ok (ids.headD ""), s)

def missing {β : Type} (elements : List Element) (found : List (Option β)) : List Element :=
  ((elements.zip found).filter (·.2.isNone)).map (·.1)

/-- Puts values into the empty places, from the first to the last. -/
def fill {β : Type} : List (Option β) → List β → List β
  | [], _ => []
  | some v :: found, fresh => v :: fill found fresh
  | none :: found, v :: fresh => v :: fill found fresh
  | none :: _, [] => []

def cacheEntries (elements : List Element) (vectors : List (Vec α)) : List (CacheKey × Vec α) :=
  (elements.zip vectors).filterMap fun (e, v) => e.metadata.cacheKey.map (·, v)

/-- New vectors for elements, cached where the hash of the file is known. -/
def embedAll (s : Service α τ) (elements : List Element) : Answer α τ (List (Vec α)) :=
  if elements.isEmpty then (.ok [], s)
  else
    (s.onEmbedder fun embedder asked =>
      embedder.embedBatch asked (elements.map (·.text))).andThen fun vectors s =>
        (s.onStore (·.cacheAll s.now (cacheEntries elements vectors))).andThen fun _ s =>
          (.ok vectors, s)

/-- Indexes elements and returns their ids, in the order of the elements. -/
def indexBatch (s : Service α τ) (elements : List Element) : Answer α τ (List String) :=
  match elements.findIdx? (·.text.isEmpty) with
  | some i => (.error (.noText (some i)), s)
  | none =>
    if elements.isEmpty then (.ok [], s)
    else
      (s.onStore (·.cachedAll s.now (elements.map (·.metadata.cacheKey)))).andThen fun found s =>
        (s.embedAll (missing elements found)).andThen fun fresh s =>
          s.storeAll elements (fill found fresh)

end CodeTwins.Service
