import CodeTwins.Proofs.Embedding.Asking
import CodeTwins.Proofs.Service.HeldVectors
import CodeTwins.Proofs.Store.Same
import Mathlib.Algebra.Order.Group.Int

/-!
# Asking once

The provider is asked for the elements of an action that have no live vector in the cache, and for
nothing else. Once an element with a cache key has been embedded, its key has a live vector for as
long as the store keeps one: later vectors of the key last longer, wipes leave the cache alone, and
only what has expired is dropped. Within that time no action asks for the key again.
-/
namespace CodeTwins.Service

open CodeTwins.Embedding Store

variable {α τ : Type}

section Uncached

variable [LT τ] [DecidableRel (α := τ) (· < ·)]

/-- The elements without a live vector in the cache. -/
def uncached (s : Service α τ) (es : List Element) : List Element :=
  es.filter fun e => (s.live? e).isNone

private theorem isSome_live?_of_mem_uncached {s : Service α τ} {es : List Element} {e : Element}
    (h : e ∈ s.uncached es) : (s.live? e).isSome = false := by
  simpa using (List.mem_filter.mp h).2

private theorem missing_eq_uncached (s : Service α τ) (es : List Element) :
    missing es (es.map s.live?) = s.uncached es := by
  induction es with
  | nil => rfl
  | cons e es ih =>
    rw [List.map_cons, uncached, List.filter_cons]
    cases hlive : s.live? e with
    | none =>
      rw [missing_cons_none, ih]
      rfl
    | some v =>
      rw [missing_cons_some, ih]
      rfl

end Uncached

/-- The chunks of elements, element by element. -/
def chunksOf (limit : Nat) (es : List Element) : List String :=
  es.flatMap fun e => chunks limit e.text

section Asking

variable {β γ : Type} {s s' : Service α τ} {texts more : List String}

/-- To come to an answer from a service, texts have been asked for. -/
def Answer.Asks (s : Service α τ) (texts : List String) (answer : Answer α τ β) : Prop :=
  AsksFor texts s.asked answer.1 answer.2.asked

private theorem Answer.Asks.andThen {answer : Answer α τ β} {next : β → Service α τ → Answer α τ γ}
    (h : answer.Asks s texts) (hnext : ∀ b s', answer = (.ok b, s') → (next b s').Asks s' more) :
    (answer.andThen next).Asks s (texts ++ more) := by
  rcases answer with ⟨result, s'⟩
  cases result with
  | error f => exact h.of_error f more
  | ok b => exact h.of_ok (hnext b s' rfl)

private theorem Answer.Asks.before {answer : Answer α τ β} {next : β → Service α τ → Answer α τ γ}
    (h : answer.Asks s []) (hnext : ∀ b s', answer = (.ok b, s') → (next b s').Asks s' more) :
    (answer.andThen next).Asks s more :=
  h.andThen hnext

private theorem Answer.Asks.after {answer : Answer α τ β} {next : β → Service α τ → Answer α τ γ}
    (h : answer.Asks s texts) (hnext : ∀ b s', (next b s').Asks s' []) :
    (answer.andThen next).Asks s texts :=
  List.append_nil texts ▸ h.andThen fun b s' _ => hnext b s'

private theorem asks_ok (b : β) (s : Service α τ) : Answer.Asks s [] (.ok b, s) :=
  .nothing _ s.asked

private theorem asks_onStore (s : Service α τ)
    (f : Store Element (Vec α) τ → Store.Result Element (Vec α) τ β) :
    (s.onStore f).Asks s [] :=
  .nothing _ s.asked

private theorem asks_onEmbedder {f : Embedder α → List String → Asked β}
    (h : AsksFor texts s.asked (f s.embedder s.asked).1 (f s.embedder s.asked).2) :
    (s.onEmbedder f).Asks s texts :=
  h.imp fun hok => isOk_mapError.symm.trans hok

private theorem asks_storeAll (s : Service α τ) (es : List Element) (vs : List (Vec α)) :
    (s.storeAll es vs).Asks s [] := by
  unfold storeAll
  cases es.mapM Element.encode with
  | ok => exact (asks_onStore (s.drawIds es.length).2 _).before fun _ s' _ => asks_ok _ s'
  | error m => exact .nothing _ s.asked

variable [Scalar α] [Add τ]

private theorem asks_embedAll (s : Service α τ) (es : List Element) :
    (s.embedAll es).Asks s (chunksOf s.embedder.chunkLimit es) := by
  unfold embedAll
  split
  case isTrue hempty =>
    rw [List.isEmpty_iff.mp hempty]
    exact .nothing _ s.asked
  case isFalse =>
    have hembed := s.embedder.asksFor_embedBatch s.asked (es.map (·.text))
    rw [List.flatMap_map] at hembed
    exact (asks_onEmbedder hembed).after fun vs s₁ =>
      (asks_onStore s₁ _).before fun _ s₂ _ => asks_ok vs s₂

variable [LT τ] [DecidableRel (α := τ) (· < ·)]

/-- A list of elements is indexed by asking for those that have no live vector. -/
theorem asks_indexBatch (s : Service α τ) (es : List Element) :
    (s.indexBatch es).Asks s (chunksOf s.embedder.chunkLimit (s.uncached es)) := by
  unfold indexBatch
  split
  · exact .failed _ s.asked _
  split
  case h_2.isTrue hempty =>
    rw [List.isEmpty_iff.mp hempty]
    exact .nothing _ s.asked
  case h_2.isFalse =>
    refine (asks_onStore s _).before fun found s₁ hlookup => ?_
    obtain ⟨rfl, -, store, rfl, -, -⟩ := lookup_ok hlookup
    rw [missing_eq_uncached]
    exact (asks_embedAll { s with store := store } (s.uncached es)).after fun fresh s₂ =>
      asks_storeAll s₂ es _

end Asking

section Perform

variable [Scalar α] [LT τ] [DecidableRel (α := τ) (· < ·)] [Add τ]

/-- The action does what it is there for. -/
def Succeeds (s : Service α τ) : Action τ → Prop
  | .index e => (s.index e).1.isOk = true
  | .indexBatch es => (s.indexBatch es).1.isOk = true
  | .deleteAll => (s.onStore (·.clear)).1.isOk = true
  | .purge => (s.onStore (·.purge s.now)).1.isOk = true
  | .wait _ => True

private theorem succeeds_index {s : Service α τ} {e : Element} (h : s.Succeeds (.index e)) :
    s.Succeeds (.indexBatch [e]) := by
  have hok : (s.index e).1.isOk = true := h
  by_cases he : e.text = ""
  · simp [index, he, Except.isOk, Except.toBool] at hok
  · rw [index_eq_indexBatch s he, isOk_map] at hok
    exact hok

/-- An action asks for the elements it is about that have no live vector in the cache. -/
theorem asked_perform (s : Service α τ) (action : Action τ) :
    ∃ first, first <+: chunksOf s.embedder.chunkLimit (s.uncached action.elements) ∧
      (s.perform action).asked = first.reverse ++ s.asked ∧
      (s.Succeeds action → first = chunksOf s.embedder.chunkLimit (s.uncached action.elements)) := by
  cases action with
  | index e =>
    rw [perform_index]
    obtain ⟨first, hfirst, hasked, hall⟩ := asks_indexBatch s [e]
    exact ⟨first, hfirst, hasked, fun h => hall (succeeds_index h)⟩
  | indexBatch es => exact asks_indexBatch s es
  | deleteAll => exact ⟨[], List.prefix_rfl, rfl, fun _ => rfl⟩
  | purge => exact ⟨[], List.prefix_rfl, rfl, fun _ => rfl⟩
  | wait d => exact ⟨[], List.prefix_rfl, rfl, fun _ => rfl⟩

private theorem setup_indexBatch (s : Service α τ) (es : List Element) :
    (s.indexBatch es).2.store.setup = s.store.setup := by
  rcases hrun : s.indexBatch es with ⟨result, s'⟩
  cases result with
  | error f =>
    obtain ⟨-, store, asked, drawn, rfl, -, -, hsetup⟩ := indexBatch_error hrun
    exact hsetup
  | ok ids =>
    obtain ⟨-, -, vs, store, asked, rfl, -, -, hsetup⟩ := indexBatch_ok hrun
    exact hsetup

private theorem setup_perform (s : Service α τ) (action : Action τ) :
    (s.perform action).store.setup = s.store.setup := by
  cases action with
  | index e =>
    rw [perform_index]
    exact setup_indexBatch s [e]
  | indexBatch es => exact setup_indexBatch s es
  | deleteAll => exact setup_transact s.store Tables.clear
  | purge => exact setup_transact s.store (·.purge s.now)
  | wait d => rfl

/-- Neither the embedder nor how the store is set up changes in a run. -/
theorem setup_run (s : Service α τ) (actions : List (Action τ)) :
    (s.run actions).embedder = s.embedder ∧ (s.run actions).store.setup = s.store.setup := by
  induction actions generalizing s with
  | nil => exact ⟨rfl, rfl⟩
  | cons action actions ih =>
    obtain ⟨hembedder, hsetup⟩ := ih (s.perform action)
    exact ⟨hembedder.trans (embedder_perform s action), hsetup.trans (setup_perform s action)⟩

private theorem run_append (s : Service α τ) (actions later : List (Action τ)) :
    s.run (actions ++ later) = (s.run actions).run later :=
  List.foldl_append

end Perform

variable [AddCommGroup τ] [LinearOrder τ]

/-- Time does not go back. -/
def Action.Forward : Action τ → Prop
  | index _ => True
  | indexBatch _ => True
  | deleteAll => True
  | purge => True
  | wait d => 0 ≤ d

/-- Until a moment there is a live vector for a key, and new ones will not last less. -/
structure KeepsUntil (limit : τ) (key : CacheKey) (s : Service α τ) : Prop where
  entry : s.now < limit → ∃ entry ∈ s.store.written.entriesOf key, limit ≤ entry.expires
  renewed : limit ≤ s.now + s.store.ttl

namespace KeepsUntil

variable {limit : τ} {key : CacheKey} {s s' : Service α τ}

private theorem isSome_live? (hs : KeepsUntil limit key s) (hnow : s.now < limit) {e : Element}
    (hkey : e.metadata.cacheKey = some key) : (s.live? e).isSome = true := by
  obtain ⟨entry, hentry, hexpires⟩ := hs.entry hnow
  rw [live?, hkey, Option.bind_some, Tables.cached?_eq_find?, Option.isSome_map, List.find?_isSome]
  exact ⟨entry, hentry, by simpa using hnow.trans_le hexpires⟩

variable [IsOrderedAddMonoid τ]

private theorem step (hs : KeepsUntil limit key s) (hnow : s.now ≤ s'.now)
    (hsetup : s'.store.setup = s.store.setup)
    (hentries : s.now < limit → ∀ entry ∈ s.store.written.entriesOf key, limit ≤ entry.expires →
      ∃ entry' ∈ s'.store.written.entriesOf key, limit ≤ entry'.expires) :
    KeepsUntil limit key s' where
  entry := by
    intro hlimit
    have hbefore : s.now < limit := hnow.trans_lt hlimit
    obtain ⟨entry, hentry, hexpires⟩ := hs.entry hbefore
    exact hentries hbefore entry hentry hexpires
  renewed := by
    rw [ttl_of_setup hsetup]
    exact hs.renewed.trans (add_le_add_left hnow _)

/-- A transaction that drops no entry that is live leaves the key one. -/
theorem of_transact {β : Type} (hs : KeepsUntil limit key s)
    {f : Tables Element (Vec α) τ → Tables Element (Vec α) τ × β}
    (hentries : ∀ t, ∀ entry ∈ t.entriesOf key, s.now < entry.expires →
      entry ∈ (f t).1.entriesOf key) :
    KeepsUntil limit key (s.onStore (·.transact f)).2 := by
  refine hs.step le_rfl (setup_transact s.store f) fun hnow entry hentry hexpires =>
    ⟨entry, ?_, hexpires⟩
  change entry ∈ (s.store.transact f).2.written.entriesOf key
  rw [written_transact]
  split
  · exact hentries _ entry hentry (hnow.trans_le hexpires)
  · exact hentry

variable [Scalar α]

omit [IsOrderedAddMonoid τ] [Scalar α] in
/-- The key keeps its entry, or gets one that lasts as long as new ones do. -/
theorem cacheAllUntil (hs : KeepsUntil limit key s) (entries : List (CacheKey × Vec α))
    {entry : Entry (Vec α) τ} (hentry : entry ∈ s.store.written.entriesOf key)
    (hexpires : limit ≤ entry.expires) :
    ∃ entry' ∈ (s.store.written.cacheAllUntil (s.now + s.store.ttl) entries).entriesOf key,
      limit ≤ entry'.expires := by
  rw [Tables.entriesOf_cacheAllUntil]
  split
  · exact ⟨_, .head _, hs.renewed⟩
  · exact ⟨entry, hentry, hexpires⟩

private theorem indexBatch (hs : KeepsUntil limit key s) (es : List Element) :
    KeepsUntil limit key (s.indexBatch es).2 := by
  rcases hrun : s.indexBatch es with ⟨result, s'⟩
  cases result with
  | error f =>
    obtain ⟨-, store, asked, drawn, rfl, -, hleaves, hsetup⟩ := indexBatch_error hrun
    refine hs.step le_rfl hsetup fun _ entry hentry hexpires => ?_
    change ∃ entry' ∈ store.written.entriesOf key, limit ≤ entry'.expires
    generalize store.written = t at hleaves
    cases hleaves with
    | same => exact ⟨entry, hentry, hexpires⟩
    | cached => exact hs.cacheAllUntil _ hentry hexpires
  | ok ids =>
    obtain ⟨-, -, vs, store, asked, rfl, -, hwritten, hsetup⟩ := indexBatch_ok hrun
    refine hs.step le_rfl hsetup fun _ entry hentry hexpires => ?_
    change ∃ entry' ∈ store.written.entriesOf key, limit ≤ entry'.expires
    rw [hwritten, Tables.entriesOf_putAll]
    exact hs.cacheAllUntil _ hentry hexpires

private theorem perform (hs : KeepsUntil limit key s) {action : Action τ} (haction : action.Forward) :
    KeepsUntil limit key (s.perform action) := by
  cases action with
  | index e =>
    rw [perform_index]
    exact hs.indexBatch [e]
  | indexBatch es => exact hs.indexBatch es
  | deleteAll => exact hs.of_transact fun t entry hentry _ => hentry
  | purge =>
    refine hs.of_transact fun t entry hentry hlive => ?_
    obtain ⟨hmem, hkey⟩ := List.mem_filter.mp hentry
    exact List.mem_filter.mpr ⟨List.mem_filter.mpr ⟨hmem, by simpa using hlive⟩, hkey⟩
  | wait d =>
    exact hs.step (le_add_of_nonneg_right haction) rfl fun _ entry hentry hexpires =>
      ⟨entry, hentry, hexpires⟩

private theorem run (hs : KeepsUntil limit key s) {actions : List (Action τ)}
    (hactions : ∀ action ∈ actions, action.Forward) : KeepsUntil limit key (s.run actions) := by
  induction actions generalizing s with
  | nil => exact hs
  | cons action actions ih =>
    rw [run_cons]
    exact ih (hs.perform (hactions action (.head _))) fun later hlater =>
      hactions later (.tail _ hlater)

end KeepsUntil

variable [Scalar α] {s : Service α τ}

/-- What has been embedded is kept for as long as the store keeps new vectors. -/
theorem keepsUntil_indexBatch {es : List Element} (h : s.Succeeds (.indexBatch es)) {e : Element}
    (he : e ∈ s.uncached es) {key : CacheKey} (hkey : e.metadata.cacheKey = some key) :
    KeepsUntil (s.now + s.store.ttl) key (s.indexBatch es).2 := by
  have hmem : e ∈ es := (List.mem_filter.mp he).1
  have hlive : (s.live? e).isSome = false := isSome_live?_of_mem_uncached he
  rcases hrun : s.indexBatch es with ⟨result, s'⟩
  cases result with
  | error f =>
    have hok : (s.indexBatch es).1.isOk = true := h
    rw [hrun] at hok
    cases hok
  | ok ids =>
    obtain ⟨-, -, vs, store, asked, rfl, hassigned, hwritten, hsetup⟩ := indexBatch_ok hrun
    refine ⟨fun _ => ?_, ?_⟩
    · change ∃ entry ∈ store.written.entriesOf key, s.now + s.store.ttl ≤ entry.expires
      rw [hwritten, Tables.entriesOf_putAll, Tables.entriesOf_cacheAllUntil]
      obtain ⟨i, hi, rfl⟩ := List.getElem_of_mem hmem
      have hvs : i < vs.length := hassigned.length_eq.symm ▸ hi
      have hnew : (key, vs[i]) ∈ newEntries s.live? es vs := by
        refine List.mem_filterMap.mpr ⟨(es[i], vs[i]), ?_, by simp [hlive, hkey]⟩
        exact List.mem_iff_getElem.mpr ⟨i, by simpa using ⟨hi, hvs⟩, List.getElem_zip⟩
      split
      case h_1 v hlast => exact ⟨_, .head _, le_rfl⟩
      case h_2 hlast => exact absurd hnew (lastVector_eq_none_iff.mp hlast _)
    · change s.now + s.store.ttl ≤ s.now + store.ttl
      rw [ttl_of_setup hsetup]

private theorem keepsUntil_perform {action : Action τ} (h : s.Succeeds action) {e : Element}
    (he : e ∈ s.uncached action.elements) {key : CacheKey} (hkey : e.metadata.cacheKey = some key) :
    KeepsUntil (s.now + s.store.ttl) key (s.perform action) := by
  cases action with
  | index e =>
    rw [perform_index]
    exact keepsUntil_indexBatch (succeeds_index h) he hkey
  | indexBatch es => exact keepsUntil_indexBatch h he hkey
  | deleteAll => cases he
  | purge => cases he
  | wait d => cases he

/-- In a run, an action asks the provider for the chunks of its elements that have no live vector
when it begins, each once and in their order: for all of them if it succeeds, and for the first ones
otherwise. If a key that one of them has has been embedded before, by an action that succeeded, it
was so long ago that the store does not keep the vector any more.

The order, and with it which ones a failing action has asked for, is that of embedding one text after
another; where texts are embedded at the same time, only what an action that succeeds has asked for is
the same, up to the order. -/
theorem asked_of_run [IsOrderedAddMonoid τ] {before : List (Action τ)}
    (hbefore : ∀ action ∈ before, action.Forward) (action : Action τ) :
    (∃ first, first <+:
        chunksOf s.embedder.chunkLimit ((s.run before).uncached action.elements) ∧
      ((s.run before).perform action).asked = first.reverse ++ (s.run before).asked ∧
      ((s.run before).Succeeds action →
        first = chunksOf s.embedder.chunkLimit ((s.run before).uncached action.elements))) ∧
      ∀ past earlier between, before = past ++ earlier :: between → (s.run past).Succeeds earlier →
        ∀ a ∈ (s.run past).uncached earlier.elements,
          ∀ b ∈ (s.run before).uncached action.elements,
            ∀ key, a.metadata.cacheKey = some key → b.metadata.cacheKey = some key →
              (s.run past).now + s.store.ttl ≤ (s.run before).now := by
  constructor
  · rw [← (setup_run s before).1]
    exact asked_perform (s.run before) action
  · rintro past earlier between rfl hearlier a ha b hb key hkeya hkeyb
    by_contra hlate
    have hbetween : ∀ action ∈ between, action.Forward :=
      fun action haction => hbefore action (by simp [haction])
    have hkeeps := (keepsUntil_perform hearlier ha hkeya).run hbetween
    rw [← run_cons, ← run_append, ttl_of_setup (setup_run s past).2] at hkeeps
    have hlive := hkeeps.isSome_live? (not_le.mp hlate) hkeyb
    rw [isSome_live?_of_mem_uncached hb] at hlive
    cases hlive

private def tenTicksService : Service Float Int where
  store := Store.empty 10
  embedder := ⟨some fun _ _ => .ok [1], 100⟩
  ids := fun n => String.ofList (List.replicate n 'a')
  now := 0

/-- A key is asked for again when its time is over, and not before, whatever is wiped. -/
theorem asked_of_run_renewed :
    let e : Element := ⟨⟨"a.js", 1, "f", none, some "h", none⟩, "function f(){}"⟩
    let before : List (Action Int) := [.index e, .deleteAll, .wait 4, .indexBatch [e], .wait 6]
    (∀ action ∈ before, action.Forward) ∧
      (tenTicksService.run before).asked = [e.text] ∧
      ((tenTicksService.run before).perform (.index e)).asked = [e.text, e.text] ∧
      (0 : Int) + 10 ≤ (tenTicksService.run before).now := by
  intro e before
  have hbefore : ∀ action ∈ before, action.Forward := by simp [before, Action.Forward]
  have hasked : (tenTicksService.run before).asked = [e.text] := by decide +kernel
  have hsucceeds : (tenTicksService.run before).Succeeds (.index e) := by
    unfold Succeeds
    decide +kernel
  have huncached : (tenTicksService.run before).uncached [e] = [e] := by decide +kernel
  obtain ⟨⟨first, -, hperform, hall⟩, hwindow⟩ :=
    asked_of_run (s := tenTicksService) hbefore (.index e)
  refine ⟨hbefore, hasked, ?_, ?_⟩
  · have hchunks : first = [e.text] := by
      rw [hall hsucceeds, Action.elements, huncached]
      decide +kernel
    rw [hperform, hchunks, hasked]
    rfl
  · refine hwindow [] (.index e) _ rfl ?_ e ?_ e ?_ ⟨"h", "f", 1⟩ rfl rfl
    · unfold Succeeds
      decide +kernel
    · decide +kernel
    · rw [Action.elements, huncached]
      exact .head _

end CodeTwins.Service
