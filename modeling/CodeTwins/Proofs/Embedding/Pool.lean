import CodeTwins.Embedding.Pool
import CodeTwins.Proofs.Embedding.Embedder
import Mathlib.Algebra.GroupWithZero.Nat
import Mathlib.Data.List.Forall2
import Mathlib.Data.List.Induction
import Mathlib.Data.List.Perm.Subperm

/-!
# Embedding in any order

A batch that is over has given every text its own vector, in the order of the texts, or has failed
with the error of one of its texts. This holds in whatever order the workers make progress and the
results are collected, for a provider that goes by the text alone. What is still to come of the
texts that wait or that a worker is at is then settled, so that a turn only moves results about: as
long as no failure is collected, none is lost.
-/
namespace CodeTwins.Embedding

variable {α : Type}

/-- The provider goes by the text alone, and not by what it has been asked before. -/
def GoesByText (provider : Provider α) : Prop :=
  ∀ asked text, provider asked text = provider [] text

section Gathering

variable {β : Type} {n : Nat} {finished : List (Nat × Except Error β)}

private theorem gather_concat (n : Nat) (finished : List (Nat × Except Error β)) (place : Nat)
    (result : Except Error β) :
    gather n (finished ++ [(place, result)]) =
      (gather n finished).bind fun results => result.map fun v => results.set place (some v) := by
  simp only [gather, List.foldlM_append, List.foldlM_cons, List.foldlM_nil, bind_pure]
  rfl

theorem exists_mem_of_gather_error {e : Error} (h : gather n finished = .error e) :
    ∃ place, (place, .error e) ∈ finished := by
  induction finished using List.reverseRecOn with
  | nil => cases h
  | append_singleton finished result ih =>
    obtain ⟨place, result⟩ := result
    rw [gather_concat] at h
    cases hbefore : gather n finished with
    | error e' =>
      rw [hbefore] at h
      cases h
      obtain ⟨place', hmem⟩ := ih hbefore
      exact ⟨place', List.mem_append_left _ hmem⟩
    | ok results =>
      rw [hbefore] at h
      cases result with
      | error e' =>
        cases h
        exact ⟨place, List.mem_append_right _ (List.mem_singleton.mpr rfl)⟩
      | ok v => cases h

/-- What is gathered has every vector at its place, provided that no place is taken twice. -/
theorem getElem?_of_gather_ok {results : List (Option β)} (h : gather n finished = .ok results)
    (hplaces : (finished.map Prod.fst).Nodup) :
    results.length = n ∧ ∀ place result, (place, result) ∈ finished → place < n →
      ∃ v, result = .ok v ∧ results[place]? = some (some v) := by
  induction finished using List.reverseRecOn generalizing results with
  | nil =>
    cases h
    exact ⟨List.length_replicate, fun _ _ hmem => absurd hmem List.not_mem_nil⟩
  | append_singleton finished last ih =>
    obtain ⟨place, result⟩ := last
    rw [gather_concat] at h
    rw [List.map_append, List.map_singleton, List.nodup_append] at hplaces
    obtain ⟨hplaces, -, hnew⟩ := hplaces
    cases hbefore : gather n finished with
    | error e =>
      rw [hbefore] at h
      cases h
    | ok before =>
      rw [hbefore] at h
      obtain ⟨hlength, hgathered⟩ := ih hbefore hplaces
      cases result with
      | error e => cases h
      | ok v =>
        cases h
        refine ⟨by rw [List.length_set, hlength], fun place' result' hmem hlt => ?_⟩
        rcases List.mem_append.mp hmem with hmem | hmem
        · obtain ⟨v', hv', hat⟩ := hgathered place' result' hmem hlt
          have hne : place' ≠ place :=
            hnew place' (List.mem_map_of_mem hmem) place (List.mem_singleton.mpr rfl)
          exact ⟨v', hv', by rw [List.getElem?_set_ne hne.symm, hat]⟩
        · cases List.mem_singleton.mp hmem
          exact ⟨v, rfl, by rw [List.getElem?_set_self (by rw [hlength]; exact hlt)]⟩

end Gathering

variable [Scalar α]

section Replies

variable {provider : Provider α}

omit [Scalar α] in
private theorem askAll_of_goesByText (h : GoesByText provider) (asked texts : List String) :
    (askAll provider asked texts).1 = texts.mapM (provider []) := by
  induction texts generalizing asked with
  | nil => rfl
  | cons text texts ih =>
    rw [List.mapM_cons, ← h asked text]
    simp only [askAll]
    cases provider asked text with
    | error e => rfl
    | ok v =>
      rw [← ih (text :: asked)]
      rfl

private theorem embed_of_goesByText (h : GoesByText provider) (limit : Nat) (asked : List String)
    (text : String) :
    (Embedder.embed ⟨some provider, limit⟩ asked text).1 =
      ((chunks limit text).mapM (provider [])).bind combine := by
  rw [← askAll_of_goesByText h asked]
  rfl

/-- Embedding one after the other gives the same vectors. -/
theorem embedEach_of_forall₂ {embedder : Embedder α} {texts : List String} {vs : List (Vec α)}
    (h : List.Forall₂ (fun text v => ∀ asked, (embedder.embed asked text).1 = .ok v) texts vs)
    (asked : List String) : (embedder.embedEach asked texts).1 = .ok vs := by
  induction h generalizing asked with
  | nil => rfl
  | @cons text v texts vs hv _ ih =>
    have hv := hv asked
    rw [Embedder.embedEach]
    rcases hembed : embedder.embed asked text with ⟨result, asked'⟩
    rw [hembed] at hv
    subst hv
    simp only
    rw [ih asked']
    rfl

end Replies

/-- What comes of a text that a worker is at. -/
def Job.outcome (provider : Provider α) (job : Job α) : Finished α :=
  (job.place, (job.chunks.mapM (provider [])).bind fun vs => combine (job.vectors ++ vs))

/-- A worker makes progress towards what comes of its text, and does not change it. -/
theorem Job.outcome_work {provider : Provider α} (h : GoesByText provider) (asked : List String)
    (job : Job α) :
    ((job.work provider asked).1.elim (Job.outcome provider) id) = job.outcome provider := by
  obtain ⟨place, chunks, vectors⟩ := job
  cases chunks with
  | nil =>
    simp only [Job.work, Sum.elim_inr, id, Job.outcome, List.mapM_nil]
    change _ = (place, combine (vectors ++ []))
    rw [List.append_nil]
  | cons chunk chunks =>
    simp only [Job.work, Job.outcome, List.mapM_cons, h asked chunk]
    cases provider [] chunk with
    | error e => rfl
    | ok v =>
      simp only [Sum.elim_inl, Job.outcome, List.append_assoc, List.singleton_append]
      cases chunks.mapM (provider []) <;> rfl

namespace Batch

variable {batch : Batch α} {pool pool' : Pool α}

/-- The embedder that the workers of a batch share. -/
def embedder (batch : Batch α) : Embedder α :=
  ⟨some batch.provider, batch.chunkLimit⟩

/-- What comes of a text, with its place. -/
def outcome (batch : Batch α) (waiting : String × Nat) : Finished α :=
  (waiting.2, ((chunks batch.chunkLimit waiting.1).mapM (batch.provider [])).bind combine)

/-- What comes of all texts of a batch. -/
def outcomes (batch : Batch α) : List (Finished α) :=
  batch.texts.zipIdx.map batch.outcome

/-- What has come and is still to come of the texts that are left in a pool. -/
def outcomesOf (batch : Batch α) (pool : Pool α) : List (Finished α) :=
  pool.waiting.map batch.outcome ++ pool.running.map (Job.outcome batch.provider) ++
    pool.finished ++ pool.collected

/-- No more workers are busy than there are. What comes of the texts in the pool is among what comes
of all texts, and is all of it as long as no failure is collected. -/
structure Sound (batch : Batch α) (pool : Pool α) : Prop where
  busy : pool.running.length ≤ batch.workers
  among : (batch.outcomesOf pool).Subperm batch.outcomes
  all : (batch.result pool).isOk = true → (batch.outcomesOf pool).Perm batch.outcomes

/-- The turns that are left at most. -/
def workOf (batch : Batch α) (pool : Pool α) : Nat :=
  (pool.waiting.map fun waiting => (chunks batch.chunkLimit waiting.1).length + 3).sum +
    (pool.running.map fun job => job.chunks.length + 2).sum + pool.finished.length

/-- What a turn can do. -/
inductive Turned (batch : Batch α) (pool : Pool α) : Pool α → Prop
  | took {text : String} {place : Nat} {waiting : List (String × Nat)} :
    pool.waiting = (text, place) :: waiting → pool.running.length < batch.workers →
    Turned batch pool
      { pool with
        waiting
        running := pool.running ++ [⟨place, chunks batch.chunkLimit text, []⟩] }
  | worked {before after : List (Job α)} {job job' : Job α} {asked : List String} :
    pool.running = before ++ job :: after →
    job.work batch.provider pool.asked = (.inl job', asked) →
    Turned batch pool { pool with asked, running := before ++ job' :: after }
  | finished {before after : List (Job α)} {job : Job α} {result : Finished α}
      {asked : List String} :
    pool.running = before ++ job :: after →
    job.work batch.provider pool.asked = (.inr result, asked) →
    Turned batch pool
      { pool with asked, running := before ++ after, finished := pool.finished ++ [result] }
  | collected {before after : List (Finished α)} {result : Finished α} :
    pool.finished = before ++ result :: after → (batch.result pool).isOk = true →
    Turned batch pool
      { pool with finished := before ++ after, collected := pool.collected ++ [result] }
  | dropped {before after : List (String × Nat)} {waiting : String × Nat} :
    pool.waiting = before ++ waiting :: after → (batch.result pool).isOk = false →
    Turned batch pool { pool with waiting := before ++ after }

private theorem turned_of_turn {turn : Turn} (h : batch.turn pool turn = some pool') :
    Turned batch pool pool' := by
  cases turn with
  | take =>
    simp only [Batch.turn] at h
    split at h
    · cases h
    · rename_i text place waiting hwaiting
      split at h
      · rename_i hfree
        cases h
        exact .took hwaiting hfree
      · cases h
  | work worker =>
    simp only [Batch.turn] at h
    obtain ⟨job, hjob, h⟩ := Option.bind_eq_some_iff.mp h
    obtain ⟨hlt, rfl⟩ := List.getElem?_eq_some_iff.mp hjob
    have hsplit : pool.running = pool.running.take worker ++ pool.running[worker] ::
        pool.running.drop (worker + 1) := by simp
    split at h
    · rename_i job' asked hwork
      cases h
      rw [List.set_eq_take_append_cons_drop, if_pos hlt]
      exact .worked hsplit hwork
    · rename_i result asked hwork
      cases h
      rw [List.eraseIdx_eq_take_drop_succ]
      exact .finished hsplit hwork
  | collect nth =>
    simp only [Batch.turn] at h
    obtain ⟨result, hresult, h⟩ := Option.bind_eq_some_iff.mp h
    obtain ⟨hlt, rfl⟩ := List.getElem?_eq_some_iff.mp hresult
    split at h
    · rename_i hok
      cases h
      rw [List.eraseIdx_eq_take_drop_succ]
      exact .collected (by simp) hok
    · cases h
  | drop nth =>
    simp only [Batch.turn] at h
    split at h
    · rename_i hlt
      obtain ⟨hlt, hfailed⟩ := hlt
      cases h
      have hsplit : pool.waiting = pool.waiting.take nth ++ pool.waiting[nth] ::
          pool.waiting.drop (nth + 1) := by simp
      rw [List.eraseIdx_eq_take_drop_succ]
      exact .dropped hsplit (Bool.eq_false_iff.mpr hfailed)
    · cases h

/-- A turn moves results about, and drops some after a failure only. -/
theorem Turned.outcomesOf (hprovider : GoesByText batch.provider) (h : Turned batch pool pool') :
    (batch.outcomesOf pool').Perm (batch.outcomesOf pool) ∨
      (batch.outcomesOf pool').Sublist (batch.outcomesOf pool) ∧
        (batch.result pool').isOk = false := by
  cases h with
  | @took text place waiting hwaiting =>
    left
    have hsame : Job.outcome batch.provider ⟨place, chunks batch.chunkLimit text, []⟩ =
        batch.outcome (text, place) := rfl
    simp only [Batch.outcomesOf, hwaiting, List.map_append, List.map_cons, List.map_nil, hsame,
      List.append_assoc, List.cons_append, List.nil_append]
    rw [← List.append_assoc]
    exact List.perm_middle.trans (by rw [List.append_assoc])
  | @worked before after job job' asked hrunning hwork =>
    left
    have hsame : job'.outcome batch.provider = job.outcome batch.provider := by
      rw [← Job.outcome_work hprovider pool.asked job, hwork]
      rfl
    simp only [Batch.outcomesOf, hrunning, List.map_append, List.map_cons, hsame]
    exact .rfl
  | @finished before after job result asked hrunning hwork =>
    left
    have hsame : result = job.outcome batch.provider := by
      rw [← Job.outcome_work hprovider pool.asked job, hwork]
      rfl
    simp only [Batch.outcomesOf, hrunning, List.map_append, List.map_cons, hsame,
      List.append_assoc, List.cons_append, List.nil_append]
    refine .append_left _ (.append_left _ ?_)
    rw [← List.append_assoc]
    exact List.perm_middle.trans (by rw [List.append_assoc])
  | collected hfinished =>
    left
    simp only [Batch.outcomesOf, hfinished, List.append_assoc, List.cons_append]
    refine .append_left _ (.append_left _ (.append_left _ ?_))
    rw [← List.append_assoc]
    exact List.perm_append_singleton _ _
  | dropped hwaiting hfailed =>
    right
    refine ⟨?_, hfailed⟩
    simp only [Batch.outcomesOf, hwaiting, List.map_append, List.map_cons, List.append_assoc]
    exact .append_left (List.sublist_cons_self _ _) _

private theorem Turned.busy (h : Turned batch pool pool')
    (hbusy : pool.running.length ≤ batch.workers) : pool'.running.length ≤ batch.workers := by
  cases h with
  | took _ hfree =>
    rw [List.length_append]
    exact hfree
  | worked hrunning =>
    rw [hrunning] at hbusy
    simpa using hbusy
  | finished hrunning =>
    rw [hrunning] at hbusy
    simp only [List.length_append, List.length_cons] at hbusy ⊢
    omega
  | collected => exact hbusy
  | dropped => exact hbusy

/-- A failure that is collected stays. -/
theorem Turned.isOk_of_isOk (h : Turned batch pool pool')
    (hok : (batch.result pool').isOk = true) : (batch.result pool).isOk = true := by
  cases h with
  | collected _ hbefore => exact hbefore
  | took => exact hok
  | worked => exact hok
  | finished => exact hok
  | dropped => exact hok

private theorem Sound.turned (hprovider : GoesByText batch.provider) (hs : Sound batch pool)
    (h : Turned batch pool pool') : Sound batch pool' where
  busy := h.busy hs.busy
  among := by
    rcases h.outcomesOf hprovider with hperm | ⟨hsub, -⟩
    · exact hperm.subperm.trans hs.among
    · exact hsub.subperm.trans hs.among
  all hok := by
    rcases h.outcomesOf hprovider with hperm | ⟨-, hfailed⟩
    · exact hperm.trans (hs.all (h.isOk_of_isOk hok))
    · rw [hok] at hfailed
      cases hfailed

omit [Scalar α] in
private theorem workOf_start : batch.workOf batch.start =
    (batch.texts.map fun text => (chunks batch.chunkLimit text).length + 3).sum := by
  have hwaiting : batch.texts.zipIdx.map
      (fun waiting => (chunks batch.chunkLimit waiting.1).length + 3) =
      batch.texts.map fun text => (chunks batch.chunkLimit text).length + 3 := by
    rw [← List.zipIdx_map_fst 0 batch.texts, List.map_map]
    simp
  simp only [workOf, start, hwaiting, List.map_nil, List.sum_nil, List.length_nil, Nat.add_zero]

private theorem sound_start : Sound batch batch.start := by
  have hstart : batch.outcomesOf batch.start = batch.outcomes := by
    simp [Batch.outcomesOf, Batch.outcomes, start]
  exact ⟨Nat.zero_le _, by rw [hstart], fun _ => by rw [hstart]⟩

/-- Each turn is one that was left. -/
theorem Turned.workOf_lt (h : Turned batch pool pool') :
    batch.workOf pool' < batch.workOf pool := by
  cases h with
  | took hwaiting =>
    simp only [Batch.workOf, hwaiting, List.map_append, List.map_cons, List.map_nil,
      List.sum_append, List.sum_cons, List.sum_nil]
    omega
  | @worked before after job job' asked hrunning hwork =>
    have hless : job'.chunks.length < job.chunks.length := by
      unfold Job.work at hwork
      split at hwork
      · cases hwork
      · rename_i hchunks
        split at hwork
        · cases hwork
        · cases hwork
          simp [hchunks]
    simp only [Batch.workOf, hrunning, List.map_append, List.map_cons, List.sum_append,
      List.sum_cons]
    omega
  | finished hrunning =>
    simp only [Batch.workOf, hrunning, List.map_append, List.map_cons, List.sum_append,
      List.sum_cons, List.length_append, List.length_singleton]
    omega
  | collected hfinished =>
    simp only [Batch.workOf, hfinished, List.length_append, List.length_cons]
    omega
  | dropped hwaiting =>
    simp only [Batch.workOf, hwaiting, List.map_append, List.map_cons, List.sum_append,
      List.sum_cons]
    omega

/-- As long as a batch is not over, there is a turn that is possible. -/
theorem exists_turn (hcap : 1 ≤ batch.cap) (hs : Sound batch pool) (h : ¬ batch.IsOver pool) :
    ∃ turn pool', batch.turn pool turn = some pool' := by
  rcases hrunning : pool.running with _ | ⟨job, running⟩
  · rcases hwaiting : pool.waiting with _ | ⟨⟨text, place⟩, waiting⟩
    · have hleft : (batch.result pool).isOk = true ∧ pool.finished ≠ [] := by
        simpa [IsOver, hrunning, hwaiting] using h
      obtain ⟨hok, hfinished⟩ := hleft
      obtain ⟨result, finished, hfinished⟩ := List.exists_cons_of_ne_nil hfinished
      exact ⟨.collect 0, _, by simp only [turn, hfinished, hok]; rfl⟩
    · have hsome : 0 < batch.texts.length := by
        have hlength := hs.among.length_le
        simp only [Batch.outcomesOf, Batch.outcomes, hwaiting, List.length_append, List.length_map,
          List.length_cons, List.length_zipIdx] at hlength
        omega
      have hfree : 0 < batch.workers := Nat.lt_min.mpr ⟨hcap, hsome⟩
      exact ⟨.take, _, by simp only [turn, hwaiting, hrunning, List.length_nil, if_pos hfree]; rfl⟩
  · rcases hwork : job.work batch.provider pool.asked with ⟨job' | result, asked⟩
    · exact ⟨.work 0, _, by simp only [turn, hrunning, List.getElem?_cons_zero, Option.bind_eq_bind,
        Option.bind_some, hwork]; rfl⟩
    · exact ⟨.work 0, _, by simp only [turn, hrunning, List.getElem?_cons_zero, Option.bind_eq_bind,
        Option.bind_some, hwork]; rfl⟩

section Runs

variable {turns : List Turn}

theorem run_cons {turn : Turn} (h : batch.run pool (turn :: turns) = some pool') :
    ∃ next, Turned batch pool next ∧ batch.run next turns = some pool' := by
  obtain ⟨next, hnext, hrest⟩ := Option.bind_eq_some_iff.mp h
  exact ⟨next, turned_of_turn hnext, hrest⟩

private theorem Sound.run (hprovider : GoesByText batch.provider) (hs : Sound batch pool)
    (h : batch.run pool turns = some pool') : Sound batch pool' := by
  induction turns generalizing pool with
  | nil =>
    cases h
    exact hs
  | cons turn turns ih =>
    obtain ⟨next, hnext, hrest⟩ := run_cons h
    exact ih (hs.turned hprovider hnext) hrest

private theorem length_add_workOf_le (h : batch.run pool turns = some pool') :
    turns.length + batch.workOf pool' ≤ batch.workOf pool := by
  induction turns generalizing pool with
  | nil =>
    cases h
    simp
  | cons turn turns ih =>
    obtain ⟨next, hnext, hrest⟩ := run_cons h
    have hfirst := hnext.workOf_lt
    have hothers := ih hrest
    rw [List.length_cons]
    omega

/-- Every run goes on until the batch is over. -/
theorem exists_run (hprovider : GoesByText batch.provider) (hcap : 1 ≤ batch.cap)
    (hs : Sound batch pool) :
    ∃ turns pool', batch.run pool turns = some pool' ∧ batch.IsOver pool' := by
  induction hwork : batch.workOf pool using Nat.strongRecOn generalizing pool with
  | _ work ih =>
    by_cases hover : batch.IsOver pool
    · exact ⟨[], pool, rfl, hover⟩
    · obtain ⟨turn, next, hturn⟩ := exists_turn hcap hs hover
      have hnext := turned_of_turn hturn
      obtain ⟨turns, pool', hrun, hover⟩ :=
        ih _ (hwork ▸ hnext.workOf_lt) (hs.turned hprovider hnext) rfl
      refine ⟨turn :: turns, pool', ?_, hover⟩
      rw [run, List.foldlM_cons, hturn]
      exact hrun

end Runs

section Over

private theorem embed_eq (hprovider : GoesByText batch.provider) (asked : List String) (text : String)
    (place : Nat) : (batch.embedder.embed asked text).1 = (batch.outcome (text, place)).2 :=
  embed_of_goesByText hprovider batch.chunkLimit asked text

private theorem IsOver.outcomesOf (hover : batch.IsOver pool)
    (hok : (batch.result pool).isOk = true) : batch.outcomesOf pool = pool.collected := by
  obtain ⟨hwaiting, hrunning, hfinished⟩ := hover
  simp [Batch.outcomesOf, hwaiting, hrunning, hfinished hok]

omit [Scalar α] in
private theorem exists_map_some {own : String → Except Error (Vec α)} {texts : List String}
    {results : List (Option (Vec α))}
    (h : List.Forall₂ (fun text result => ∃ v, own text = .ok v ∧ result = some v) texts results) :
    ∃ vs, results = vs.map some ∧ List.Forall₂ (fun text v => own text = .ok v) texts vs := by
  induction h with
  | nil => exact ⟨[], rfl, .nil⟩
  | cons hhead _ ih =>
    obtain ⟨v, hv, rfl⟩ := hhead
    obtain ⟨vs, rfl, hvs⟩ := ih
    exact ⟨v :: vs, rfl, .cons hv hvs⟩

private theorem forall₂_of_isOver (hprovider : GoesByText batch.provider) (hs : Sound batch pool)
    (hover : batch.IsOver pool) {results : List (Option (Vec α))}
    (hresult : batch.result pool = .ok results) :
    ∃ vs, results = vs.map some ∧ List.Forall₂
      (fun text v => ∀ asked, (batch.embedder.embed asked text).1 = .ok v) batch.texts vs := by
  have hok : (batch.result pool).isOk = true := by
    rw [hresult]
    rfl
  have hall : pool.collected.Perm batch.outcomes := by
    rw [← hover.outcomesOf hok]
    exact hs.all hok
  have hplaces : (pool.collected.map Prod.fst).Nodup := by
    have hrange : batch.outcomes.map Prod.fst = List.range batch.texts.length := by
      rw [Batch.outcomes, List.map_map, List.range_eq_range', ← List.zipIdx_map_snd]
      rfl
    rw [(hall.map Prod.fst).nodup_iff, hrange]
    exact List.nodup_range
  obtain ⟨hlength, hgathered⟩ := getElem?_of_gather_ok hresult hplaces
  have hown : List.Forall₂ (fun text result => ∃ v,
      (batch.embedder.embed [] text).1 = .ok v ∧ result = some v) batch.texts results := by
    refine List.forall₂_iff_get.mpr ⟨hlength.symm, fun place hlt hlt' => ?_⟩
    have hmem : batch.outcome (batch.texts[place], place) ∈ pool.collected :=
      hall.mem_iff.mpr (List.mem_map_of_mem
        (List.mk_mem_zipIdx_iff_getElem?.mpr (List.getElem?_eq_getElem hlt)))
    obtain ⟨v, hv, hat⟩ := hgathered place _ hmem hlt
    refine ⟨v, ?_, ?_⟩
    · rw [embed_eq hprovider [] _ place]
      exact hv
    · rw [List.getElem?_eq_getElem hlt'] at hat
      exact Option.some.inj hat
  obtain ⟨vs, hvs, hown⟩ := exists_map_some hown
  refine ⟨vs, hvs, hown.imp fun text v hv asked => ?_⟩
  rw [embed_eq hprovider asked text 0, ← embed_eq hprovider [] text 0, hv]

private theorem exists_failing (hprovider : GoesByText batch.provider) (hs : Sound batch pool)
    {e : Error} (hresult : batch.result pool = .error e) :
    ∃ text ∈ batch.texts, ∀ asked, (batch.embedder.embed asked text).1 = .error e := by
  obtain ⟨place, hmem⟩ := exists_mem_of_gather_error hresult
  have hmem : (place, .error e) ∈ batch.outcomes :=
    hs.among.subset (List.mem_append_right _ hmem)
  obtain ⟨⟨text, place'⟩, htext, houtcome⟩ := List.mem_map.mp hmem
  refine ⟨text, List.mem_of_getElem? (List.mk_mem_zipIdx_iff_getElem?.mp htext), fun asked => ?_⟩
  rw [embed_eq hprovider asked text place', houtcome]

end Over

/-- In whatever order the workers make progress and the results are collected, a batch ends, and has
then given each text its own vector, at the place of the text, or has failed as one of its texts
does. -/
theorem settled_in_any_order (hprovider : GoesByText batch.provider) (hcap : 1 ≤ batch.cap)
    {turns : List Turn} (hrun : batch.run batch.start turns = some pool) :
    pool.running.length ≤ min batch.cap batch.texts.length ∧
      turns.length ≤ (batch.texts.map fun text => (chunks batch.chunkLimit text).length + 3).sum ∧
      (∃ more pool', batch.run pool more = some pool' ∧ batch.IsOver pool') ∧
      (batch.IsOver pool →
        ((∀ text ∈ batch.texts, ∀ asked, ∃ v, (batch.embedder.embed asked text).1 = .ok v) →
          ∃ vs, batch.result pool = .ok (vs.map some) ∧
            List.Forall₂ (fun text v => ∀ asked, (batch.embedder.embed asked text).1 = .ok v)
              batch.texts vs ∧
            ∀ asked, (batch.embedder.embedBatch asked batch.texts).1 = .ok vs) ∧
        ((∃ text ∈ batch.texts, ∃ asked e, (batch.embedder.embed asked text).1 = .error e) →
          ∃ e, batch.result pool = .error e ∧
            ∃ text ∈ batch.texts, ∀ asked, (batch.embedder.embed asked text).1 = .error e)) := by
  have hs : Sound batch pool := sound_start.run hprovider hrun
  have hwork : turns.length + batch.workOf pool ≤ batch.workOf batch.start :=
    length_add_workOf_le hrun
  refine ⟨hs.busy, ?_, exists_run hprovider hcap hs, fun hover => ⟨fun hall => ?_, ?_⟩⟩
  · rw [workOf_start] at hwork
    omega
  · cases hresult : batch.result pool with
    | error e =>
      obtain ⟨text, htext, hfails⟩ := exists_failing hprovider hs hresult
      obtain ⟨v, hv⟩ := hall text htext []
      rw [hfails []] at hv
      cases hv
    | ok results =>
      obtain ⟨vs, rfl, hvs⟩ := forall₂_of_isOver hprovider hs hover hresult
      exact ⟨vs, rfl, hvs, fun asked => embedEach_of_forall₂ hvs asked⟩
  · rintro ⟨text, htext, asked, e, hfails⟩
    cases hresult : batch.result pool with
    | error e => exact ⟨e, rfl, exists_failing hprovider hs hresult⟩
    | ok results =>
      obtain ⟨vs, -, hvs⟩ := forall₂_of_isOver hprovider hs hover hresult
      obtain ⟨hlength, hvs⟩ := List.forall₂_iff_get.mp hvs
      obtain ⟨place, hlt, rfl⟩ := List.getElem_of_mem htext
      cases (hvs place hlt (hlength ▸ hlt) asked).symm.trans hfails

/-- Two workers on three texts. The second text is finished first, and the third one, which is the
first text again, is finished and collected before the first. -/
theorem settled_in_any_order_crossed :
    let batch : Batch Float :=
      ⟨fun _ text => .ok [if text = "a" then 1 else 2], 100, 2, ["a", "b", "a"]⟩
    let turns : List Turn :=
      [.take, .take, .work 1, .work 1, .take, .collect 0, .work 1, .work 0, .work 1, .collect 0,
        .work 0, .collect 0]
    ∃ pool, batch.run batch.start turns = some pool ∧ batch.IsOver pool ∧
      pool.collected.map Prod.fst = [1, 2, 0] ∧
      (∀ text ∈ batch.texts, ∀ asked, ∃ v, (batch.embedder.embed asked text).1 = .ok v) ∧
      ∃ vs, batch.result pool = .ok (vs.map some) ∧
        List.Forall₂ (fun text v => ∀ asked, (batch.embedder.embed asked text).1 = .ok v)
          batch.texts vs := by
  intro batch turns
  have hrun : batch.run batch.start turns = some
      ⟨["a", "a", "b"], [], [], [], [(1, .ok [2]), (2, .ok [1]), (0, .ok [1])]⟩ := rfl
  have hover : batch.IsOver
      ⟨["a", "a", "b"], [], [], [], [(1, .ok [2]), (2, .ok [1]), (0, .ok [1])]⟩ :=
    ⟨rfl, rfl, fun _ => rfl⟩
  have hall : ∀ text ∈ batch.texts, ∀ asked,
      ∃ v, (batch.embedder.embed asked text).1 = .ok v := by
    intro text htext asked
    have hshort : text.toList.length ≤ 100 :=
      (by decide : ∀ text ∈ ["a", "b", "a"], text.toList.length ≤ 100) text htext
    exact ⟨_, congrArg Prod.fst (embed_of_short asked hshort)⟩
  obtain ⟨-, -, -, hsettled⟩ := settled_in_any_order (fun _ _ => rfl) (by decide) hrun
  obtain ⟨vs, hresult, hvs, -⟩ := (hsettled hover).1 hall
  exact ⟨_, hrun, hover, rfl, hall, vs, hresult, hvs⟩

end Batch

end CodeTwins.Embedding
