import CodeTwins.Proofs.Embedding.Pool
import CodeTwins.Proofs.Traversal
import CodeTwins.Service.Failure

/-!
# What replies are taken for

A reply is taken for a vector if it reports success and there is a list of numbers where one is
looked for in its body. Whatever else comes of a request is told as an error of the provider, unless
an item of that list is no number. Who embeds texts fails with an error that one of their chunks
gets, or because the vectors of chunks have different lengths.
-/
namespace CodeTwins.Embedding

/-- A reply that reports success, with a list at `data[0].embedding` in its body. -/
inductive HoldsItems (o : Outcome) (items : List Json) : Prop where
  | list {fields first : List (String × Json)} {rest : List Json}
      (hcarries : o.Carries (.obj fields))
      (hdata : Json.field? "data" fields = some (.arr (.obj first :: rest)))
      (hitems : Json.field? "embedding" first = some (.arr items))

/-- Such a list with an item that cannot be taken as a number, and why the first one cannot. -/
inductive HoldsBadItem (o : Outcome) (m : Misfit) : Prop where
  | item {before after : List Json} {j : Json} (hitems : HoldsItems o (before ++ j :: after))
      (hbefore : ∀ j' ∈ before, ∃ x, j'.toFloat = .ok x) (hbad : j.toFloat = .error m)

/-- The request has not been answered in time. -/
def Error.IsTimeout (e : Error) : Prop :=
  (Service.Failure.embedding e).kind = .providerTimeout

/-- The error is told as one of the provider. -/
def Error.IsReported (e : Error) : Prop :=
  e.IsTimeout ∨ (Service.Failure.embedding e).kind = .provider

section Replies

variable {limit : String} {o : Outcome} {items : List Json} {e : Error} {m : Misfit}

private theorem vectorItems?_eq_some_iff {j : Json} :
    vectorItems? j = some items ↔ ∃ fields first rest, j = .obj fields ∧
      Json.field? "data" fields = some (.arr (.obj first :: rest)) ∧
      Json.field? "embedding" first = some (.arr items) := by
  constructor
  · intro h
    obtain ⟨data, hdata, h⟩ := Option.bind_eq_some_iff.mp h
    split at h
    case h_1 first rest =>
      obtain ⟨embedding, hembedding, h⟩ := Option.bind_eq_some_iff.mp h
      split at h
      case h_1 items' =>
        obtain rfl := Option.some.inj h
        unfold Json.get? at hdata hembedding
        split at hdata
        case h_1 fields =>
          split at hembedding
          case h_1 inner => exact ⟨fields, inner, rest, rfl, hdata, hembedding⟩
          case h_2 => cases hembedding
        case h_2 => cases hdata
      case h_2 => cases h
    case h_2 => cases h
  · rintro ⟨fields, first, rest, rfl, hdata, hembedding⟩
    simp [vectorItems?, Json.get?, hdata, hembedding]

private theorem vectorOf_of_holds (h : HoldsItems o items) :
    vectorOf limit o = (items.mapM Json.toFloat).mapError .item := by
  obtain ⟨⟨hstatus, hbody⟩, hdata, hitems⟩ := h
  have hfound := vectorItems?_eq_some_iff.mpr ⟨_, _, _, rfl, hdata, hitems⟩
  simp [vectorOf, hstatus, hbody, Except.toOption, hfound]

/-- What holds no list is told as an error of the provider. -/
theorem vectorOf_of_not_holds (limit : String) (h : ∀ items, ¬ HoldsItems o items) :
    ∃ e, vectorOf limit o = .error e ∧ e.IsReported ∧
      (e.IsTimeout ↔ ∃ reason, o = .timeout reason) := by
  cases o with
  | timeout reason => exact ⟨_, rfl, .inl rfl, iff_of_true rfl ⟨reason, rfl⟩⟩
  | unreachable reason => exact ⟨_, rfl, .inr rfl, iff_of_false nofun nofun⟩
  | reply status body =>
    simp only [vectorOf]
    split
    case isTrue => exact ⟨_, rfl, .inr rfl, iff_of_false nofun nofun⟩
    case isFalse hstatus =>
      split
      case h_1 => exact ⟨_, rfl, .inr rfl, iff_of_false nofun nofun⟩
      case h_2 items hfound =>
        obtain ⟨j, hj, hitems⟩ := Option.bind_eq_some_iff.mp hfound
        obtain ⟨fields, first, rest, rfl, hdata, hembedding⟩ := vectorItems?_eq_some_iff.mp hitems
        have hbody : body.value = .ok (.obj fields) := by
          cases hvalue : body.value with
          | error refusal =>
            rw [hvalue] at hj
            cases hj
          | ok value =>
            rw [hvalue] at hj
            rw [Option.some.inj hj]
        exact absurd ⟨.reply (by simpa using hstatus) hbody, hdata, hembedding⟩ (h items)

private theorem holds_or_not (o : Outcome) :
    (∃ items, HoldsItems o items) ∨ ∀ items, ¬ HoldsItems o items := by
  rw [← not_exists]
  exact Classical.em _

/-- A vector is the numbers of a list that a reply holds. -/
theorem vectorOf_eq_ok_iff {v : Vec Float} :
    vectorOf limit o = .ok v ↔
      ∃ items, HoldsItems o items ∧ List.Forall₂ (fun j x => j.toFloat = .ok x) items v := by
  constructor
  · intro h
    rcases holds_or_not o with ⟨items, hitems⟩ | hnone
    · rw [vectorOf_of_holds hitems] at h
      exact ⟨items, hitems, mapM_eq_ok_iff.mp (mapError_eq_ok_iff.mp h)⟩
    · obtain ⟨e, he, -⟩ := vectorOf_of_not_holds limit hnone
      cases he.symm.trans h
  · rintro ⟨items, hitems, hall⟩
    rw [vectorOf_of_holds hitems]
    exact mapError_eq_ok_iff.mpr (mapM_eq_ok_iff.mpr hall)

theorem vectorOf_eq_item_iff : vectorOf limit o = .error (.item m) ↔ HoldsBadItem o m := by
  constructor
  · intro h
    rcases holds_or_not o with ⟨items, hitems⟩ | hnone
    · rw [vectorOf_of_holds hitems] at h
      obtain ⟨m', hm', heq⟩ := mapError_eq_error_iff.mp h
      obtain rfl := Error.item.inj heq
      obtain ⟨before, j, after, rfl, hbefore, hbad⟩ := mapM_eq_error_iff.mp hm'
      exact .item hitems hbefore hbad
    · obtain ⟨e, he, hreported, -⟩ := vectorOf_of_not_holds limit hnone
      obtain rfl := Except.error.inj (he.symm.trans h)
      rcases hreported with hkind | hkind <;> cases hkind
  · rintro ⟨hitems, hbefore, hbad⟩
    rw [vectorOf_of_holds hitems]
    exact mapError_eq_error_iff.mpr
      ⟨m, mapM_eq_error_iff.mpr ⟨_, _, _, rfl, hbefore, hbad⟩, rfl⟩

/-- Whatever comes of a request is a vector, an error of the provider, or an item that is none. -/
theorem vectorOf_error (h : vectorOf limit o = .error e) :
    e.IsReported ∨ ∃ m, HoldsBadItem o m ∧ e = .item m := by
  rcases holds_or_not o with ⟨items, hitems⟩ | hnone
  · have hitem := h
    rw [vectorOf_of_holds hitems] at hitem
    obtain ⟨m, -, rfl⟩ := mapError_eq_error_iff.mp hitem
    exact .inr ⟨m, vectorOf_eq_item_iff.mp h, rfl⟩
  · obtain ⟨e', he', hreported, -⟩ := vectorOf_of_not_holds limit hnone
    obtain rfl := Except.error.inj (he'.symm.trans h)
    exact .inl hreported

theorem vectorOf_isTimeout_iff :
    (∃ e, vectorOf limit o = .error e ∧ e.IsTimeout) ↔ ∃ reason, o = .timeout reason := by
  constructor
  · rintro ⟨e, h, htimeout⟩
    rcases holds_or_not o with ⟨items, hitems⟩ | hnone
    · rw [vectorOf_of_holds hitems] at h
      obtain ⟨m, -, rfl⟩ := mapError_eq_error_iff.mp h
      cases htimeout
    · obtain ⟨e', he', -, hiff⟩ := vectorOf_of_not_holds limit hnone
      obtain rfl := Except.error.inj (he'.symm.trans h)
      exact hiff.mp htimeout
  · rintro ⟨reason, rfl⟩
    exact ⟨_, rfl, rfl⟩

end Replies

/-- A provider that is asked by requests, with the time limit for them. -/
def replying (limit : String) (outcome : List String → String → Outcome) : Provider Float :=
  fun asked text => vectorOf limit (outcome asked text)

section Errors

variable {α : Type} {provider : Provider α} {limit : Nat} {e : Error} {m : Misfit}
  {asked : List String} {text : String}

private theorem askAll_error_iff {texts : List String} :
    (askAll provider asked texts).1 = .error e ↔ ∃ before text after,
      texts = before ++ text :: after ∧ (∃ vs, (askAll provider asked before).1 = .ok vs) ∧
        provider (before.reverse ++ asked) text = .error e := by
  induction texts generalizing asked with
  | nil => simp [askAll]
  | cons text texts ih =>
    constructor
    · intro h
      unfold askAll at h
      cases hanswer : provider asked text with
      | error e' =>
        rw [hanswer] at h
        obtain rfl := Except.error.inj h
        exact ⟨[], text, texts, rfl, ⟨[], rfl⟩, hanswer⟩
      | ok v =>
        rw [hanswer] at h
        obtain ⟨before, bad, after, rfl, ⟨vs, hvs⟩, hbad⟩ := ih.mp (map_eq_error_iff.mp h)
        refine ⟨text :: before, bad, after, rfl, ⟨v :: vs, ?_⟩, by simpa using hbad⟩
        simp only [askAll, hanswer, hvs]
        rfl
    · rintro ⟨before, bad, after, htexts, ⟨vs, hvs⟩, hbad⟩
      cases before with
      | nil =>
        obtain ⟨rfl, rfl⟩ := List.cons.inj htexts
        rw [askAll]
        simp only [List.reverse_nil, List.nil_append] at hbad
        rw [hbad]
      | cons first before =>
        obtain ⟨rfl, rfl⟩ := List.cons.inj htexts
        unfold askAll at hvs ⊢
        cases hanswer : provider asked text with
        | error e' =>
          rw [hanswer] at hvs
          cases hvs
        | ok v =>
          rw [hanswer] at hvs
          cases hrest : (askAll provider (text :: asked) before).1 with
          | error e' =>
            simp only [hrest] at hvs
            cases hvs
          | ok rest =>
            refine map_eq_error_iff.mpr (ih.mpr ⟨before, bad, after, rfl, ⟨rest, hrest⟩, ?_⟩)
            simpa using hbad

variable [Scalar α]

theorem combine_error {vs : List (Vec α)} (h : combine vs = .error e) :
    e = .mixedLengths (Vec.dimensions vs) := by
  unfold combine at h
  split at h
  · cases h
  · obtain ⟨lengths, hlengths, rfl⟩ := mapError_eq_error_iff.mp h
    rw [Vec.mean?] at hlengths
    split at hlengths
    · cases hlengths
    · rw [Except.error.inj hlengths]

/-- The embedding of a text fails for an item that is no number if it is that of the first chunk for
which there is no vector. -/
theorem embed_item_iff :
    (Embedder.embed ⟨some provider, limit⟩ asked text).1 = .error (.item m) ↔
      ∃ before chunk after, chunks limit text = before ++ chunk :: after ∧
        (∃ vs, (askAll provider asked before).1 = .ok vs) ∧
        provider (before.reverse ++ asked) chunk = .error (.item m) := by
  rw [← askAll_error_iff]
  have hembed : (Embedder.embed ⟨some provider, limit⟩ asked text).1 =
      (askAll provider asked (chunks limit text)).1.bind combine := rfl
  rw [hembed]
  cases (askAll provider asked (chunks limit text)).1 with
  | error e => simp [Except.bind]
  | ok vs =>
    refine iff_of_false (fun h => ?_) nofun
    cases combine_error h

/-- An error that a chunk of a text gets, or that its chunks have vectors of different lengths. -/
inductive ComesOf (provider : Provider α) (limit : Nat) (text : String) : Error → Prop where
  | mixed (lengths : List Nat) : ComesOf provider limit text (.mixedLengths lengths)
  | asked {asked : List String} {chunk : String} {e : Error} (hchunk : chunk ∈ chunks limit text)
      (he : provider asked chunk = .error e) : ComesOf provider limit text e

theorem comesOf_embed (h : (Embedder.embed ⟨some provider, limit⟩ asked text).1 = .error e) :
    ComesOf provider limit text e := by
  have hembed : (Embedder.embed ⟨some provider, limit⟩ asked text).1 =
      (askAll provider asked (chunks limit text)).1.bind combine := rfl
  rw [hembed] at h
  cases hall : (askAll provider asked (chunks limit text)).1 with
  | error e' =>
    rw [hall] at h
    obtain rfl := Except.error.inj h
    obtain ⟨before, chunk, after, hchunks, -, he⟩ := askAll_error_iff.mp hall
    exact .asked (by simp [hchunks]) he
  | ok vs =>
    rw [hall] at h
    obtain rfl := combine_error h
    exact .mixed _

theorem comesOf_embedBatch {texts : List String}
    (h : (Embedder.embedBatch ⟨some provider, limit⟩ asked texts).1 = .error e) :
    ∃ text ∈ texts, ComesOf provider limit text e := by
  change (Embedder.embedEach ⟨some provider, limit⟩ asked texts).1 = .error e at h
  induction texts generalizing asked with
  | nil => cases h
  | cons text texts ih =>
    rcases Embedder.embedEach_cons_error (Prod.ext h rfl) with hfail | ⟨v, asked₁, -, hrest⟩
    · exact ⟨text, .head _, comesOf_embed (congrArg Prod.fst hfail)⟩
    · obtain ⟨text', hmem, he⟩ := ih (congrArg Prod.fst hrest)
      exact ⟨text', .tail _ hmem, he⟩

end Errors

section Workers

open Batch

variable {α : Type} [Scalar α] {batch : Batch α} {pool pool' : Pool α}

/-- Workers are at texts of the batch, and every error that they have come to is that of a text. -/
structure Traced (batch : Batch α) (pool : Pool α) : Prop where
  waiting : ∀ w ∈ pool.waiting, w.1 ∈ batch.texts
  running : ∀ job ∈ pool.running, ∃ text ∈ batch.texts, job.chunks <:+ chunks batch.chunkLimit text
  errors : ∀ result ∈ pool.finished ++ pool.collected, ∀ e, result.2 = .error e →
    ∃ text ∈ batch.texts, ComesOf batch.provider batch.chunkLimit text e

omit [Scalar α] in
private theorem traced_start (batch : Batch α) : Traced batch batch.start where
  waiting _ hw := (List.mem_zipIdx' hw).2 ▸ List.getElem_mem _
  running := nofun
  errors := nofun

omit [Scalar α] in
private theorem Traced.of_waiting (h : Traced batch pool) {waiting : List (String × Nat)}
    (hwaiting : ∀ w ∈ waiting, w ∈ pool.waiting) : Traced batch { pool with waiting } :=
  ⟨fun w hw => h.waiting w (hwaiting w hw), h.running, h.errors⟩

/-- What a worker does next is about the text that it is at. -/
theorem traced_work (provider : Provider α) (asked : List String) {limit : Nat} {text : String}
    {job : Job α} (h : job.chunks <:+ chunks limit text) :
    match job.work provider asked with
    | (.inl job', _) => job'.chunks <:+ chunks limit text
    | (.inr result, _) => ∀ e, result.2 = .error e → ComesOf provider limit text e := by
  cases hchunks : job.chunks with
  | nil =>
    simp only [Job.work, hchunks]
    intro e he
    obtain rfl := combine_error he
    exact .mixed _
  | cons chunk more =>
    rw [hchunks] at h
    simp only [Job.work, hchunks]
    cases hanswer : provider asked chunk with
    | error e =>
      intro e' he'
      obtain rfl := Except.error.inj he'
      exact .asked (h.mem (.head _)) hanswer
    | ok v => exact (List.suffix_cons chunk more).trans h

private theorem Traced.turned (hs : Traced batch pool) (h : Turned batch pool pool') :
    Traced batch pool' := by
  cases h with
  | @took text place waiting hwaiting _ =>
    have htext : text ∈ batch.texts := hs.waiting (text, place) (by simp [hwaiting])
    refine ⟨fun w hw => hs.waiting w (by simp [hwaiting, hw]), fun job hjob => ?_, hs.errors⟩
    rcases List.mem_append.mp hjob with hold | hnew
    · exact hs.running job hold
    · obtain rfl := List.mem_singleton.mp hnew
      exact ⟨text, htext, List.suffix_rfl⟩
  | @worked before after job job' asked hrunning hwork =>
    obtain ⟨text, htext, hchunks⟩ := hs.running job (by simp [hrunning])
    have hnext := traced_work batch.provider pool.asked hchunks
    rw [hwork] at hnext
    refine ⟨hs.waiting, fun other hother => ?_, hs.errors⟩
    rcases List.mem_append.mp hother with hbefore | hrest
    · exact hs.running other (by simp [hrunning, hbefore])
    · rcases List.mem_cons.mp hrest with rfl | hafter
      · exact ⟨text, htext, hnext⟩
      · exact hs.running other (by simp [hrunning, hafter])
  | @finished before after job result asked hrunning hwork =>
    obtain ⟨text, htext, hchunks⟩ := hs.running job (by simp [hrunning])
    have hnext := traced_work batch.provider pool.asked hchunks
    rw [hwork] at hnext
    refine ⟨hs.waiting, fun other hother => hs.running other ?_, fun other hother e he => ?_⟩
    · rw [hrunning]
      rcases List.mem_append.mp hother with hbefore | hafter
      · exact List.mem_append_left _ hbefore
      · exact List.mem_append_right _ (.tail _ hafter)
    · simp only [List.mem_append, List.mem_singleton] at hother
      rcases hother with (hold | rfl) | hold
      · exact hs.errors other (List.mem_append_left _ hold) e he
      · exact ⟨text, htext, hnext e he⟩
      · exact hs.errors other (List.mem_append_right _ hold) e he
  | @collected before after result hfinished _ =>
    refine ⟨hs.waiting, hs.running, fun other hother e he => hs.errors other ?_ e he⟩
    simp only [List.mem_append, List.mem_singleton] at hother
    simp only [hfinished, List.mem_append, List.mem_cons]
    tauto
  | @dropped before after waiting hwaiting _ =>
    refine hs.of_waiting fun w hw => ?_
    rw [hwaiting]
    rcases List.mem_append.mp hw with hbefore | hafter
    · exact List.mem_append_left _ hbefore
    · exact List.mem_append_right _ (.tail _ hafter)

private theorem Traced.run {turns : List Turn} (hs : Traced batch pool)
    (h : batch.run pool turns = some pool') : Traced batch pool' := by
  induction turns generalizing pool with
  | nil =>
    cases h
    exact hs
  | cons turn turns ih =>
    obtain ⟨next, hnext, hrest⟩ := run_cons h
    exact ih (hs.turned hnext) hrest

/-- In whatever order the workers make progress, the error that a batch fails with is that of one of
its texts. -/
theorem comesOf_result {turns : List Turn} {e : Error}
    (hrun : batch.run batch.start turns = some pool) (h : batch.result pool = .error e) :
    ∃ text ∈ batch.texts, ComesOf batch.provider batch.chunkLimit text e := by
  obtain ⟨place, hmem⟩ := exists_mem_of_gather_error h
  exact ((traced_start batch).run hrun).errors _ (List.mem_append_right _ hmem) e rfl

end Workers

end CodeTwins.Embedding
