import CodeTwins.Proofs.Client.Calls
import CodeTwins.Proofs.Client.Replies
import CodeTwins.Proofs.Element.Extraction
import CodeTwins.Proofs.Embedding.Embedder
import CodeTwins.Proofs.Service.Numbering

/-!
# Submitted elements come back

What a client submits to a service is what any client gets from it later, field by field, although
every request and every reply goes as a text and the records are kept as rows.
-/
namespace CodeTwins

open Http Client Store

/-- An element that can be submitted: it has a text, and a line that tables can hold. -/
structure Element.Submittable (e : Element) : Prop where
  text : e.text ≠ ""
  one_le_line : 1 ≤ e.metadata.lineNumber
  line_lt : e.metadata.lineNumber < 2 ^ 63

private theorem Element.Submittable.isLine {e : Element} (h : e.Submittable) :
    Service.IsLine e.metadata.lineNumber := by
  refine ⟨h.one_le_line, Numeral.isShort_of_natAbs_lt ?_⟩
  have := h.one_le_line
  have := h.line_lt
  omega

/-- Whatever elements are extracted, they can be submitted as long as their lines can be held. -/
theorem Extraction.submittable {content : String} {includes excludes : List String}
    {origin : Origin} {es : List Element} (h : extract content includes excludes origin = .ok es) :
    ∀ e ∈ es, e.metadata.lineNumber ≤ content.toList.length ∧
      (e.metadata.lineNumber < 2 ^ 63 → e.Submittable) := by
  intro e he
  obtain ⟨hpos, hle⟩ := lineNumber_bounds h he
  exact ⟨hle, fun hlt => ⟨text_ne_empty h he, hpos, hlt⟩⟩

namespace Service

variable {τ : Type} [LT τ] [DecidableRel (α := τ) (· < ·)] [Add τ] {s : Service Float τ}
  {es : List Element} {provider : Embedding.Provider Float} {limit d : Nat}

private theorem indexable_of_submittable {e : Element} (he : e.Submittable) : Indexable e where
  text := he.text
  keyFits key hkey := by
    obtain ⟨-, hpos, hlt⟩ := he
    rw [lineNumber_of_cacheKey hkey]
    simp only [fits, Bool.and_eq_true, decide_eq_true_iff]
    omega
  writable := he.isLine.short

/-- Elements that can be submitted are indexed. -/
theorem exists_indexBatch_of_submittable (hs : Answerable s)
    (hembedder : s.embedder = ⟨some provider, limit⟩)
    (hprovider : Embedding.KeepsLength provider d) (hes : ∀ e ∈ es, e.Submittable) :
    ∃ ids s', s.indexBatch es = (.ok ids, s') := by
  have hembed : ∀ asked text, ∃ v, (s.embedder.embed asked text).1 = .ok v := by
    intro asked text
    obtain ⟨v, asked', hanswer, -⟩ := Embedding.embed_of_keepsLength hprovider limit asked text
    exact ⟨v, by rw [hembedder, hanswer]⟩
  exact exists_indexBatch_ok hs.isOpen hembed fun e he => indexable_of_submittable (hes e he)

private theorem respond_elements (time host : String) {e : Element}
    (hline : IsLine e.metadata.lineNumber) :
    s.respond time ⟨.post, host, "/elements", [], .json e.loose.toJson⟩ =
      reply (s.index e) fun id => .ok (.obj [("id", .str id)]) := by
  have hroute : Route.ofPath "/elements" = some .elements := by decide
  rw [respond, hroute]
  simp [Route.allows, answer, checkedBody, carried, checked, element_toJson hline]

private theorem respond_batch (time host : String) (hlines : ∀ e ∈ es, IsLine e.metadata.lineNumber) :
    s.respond time ⟨.post, host, "/elements/batch", [],
        .json (.arr (es.map fun e => e.loose.toJson))⟩ =
      reply (s.indexBatch es) fun ids => .ok (.obj [("ids", .arr (ids.map .str))]) := by
  have hroute : Route.ofPath "/elements/batch" = some .batch := by decide
  rw [respond, hroute]
  simp [Route.allows, answer, checkedBody, carried, checked, elements_toJson hlines]

/-- A service is as fit to answer after it has indexed elements as before. -/
theorem Answerable.of_indexBatch {ids : List String} {s' : Service Float τ} (hs : Answerable s)
    (hlines : ∀ e ∈ es, IsLine e.metadata.lineNumber) (h : s.indexBatch es = (.ok ids, s')) :
    Answerable s' := by
  have heffect : Effect s { method := .post, path := "/elements/batch" } (⟨200, .null⟩, s') :=
    .index rfl hlines h nofun
  exact heffect.answerable hs

private theorem length_of_indexBatch {ids : List String} {s' : Service Float τ}
    (h : s.indexBatch es = (.ok ids, s')) : ids.length = es.length := by
  obtain ⟨rfl, -⟩ := indexBatch_ok h
  exact length_nextIds s es.length

end Service

namespace Connection

open Service

variable {τ : Type} [LT τ] [DecidableRel (α := τ) (· < ·)] [Add τ] {s s' : Service Float τ}
  {address : String}

/-- What the service shows in answers is what its records hold, and the records with the given ids
are those of the given elements. -/
structure ComesBack (s : Service Float τ) (ids : List String) (es : List Element) : Prop where
  held : Holds s ids es
  rows : ∀ r ∈ s.store.written.records,
    ∃ row, Row.ofRecord r = .ok row ∧ row.record? = some ⟨r.id, r.element.loose, r.vector⟩
  shown : ∀ r ∈ s.store.written.all, r ∈ s.store.written.records
  similar : ∀ address time id threshold limit found,
    ((toService address time).findSimilar id threshold limit s).1 = .ok found →
      ∃ target threshold limit, found =
        (Similarity.alikeRecords target threshold limit s.store.written.all).map
          fun r => r.element.loose
  pairs : ∀ address time threshold limit found,
    ((toService address time).findPairs threshold limit s).1 = .ok found →
      ∃ threshold limit ps, Similarity.closest threshold limit s.store.written.all = .ok ps ∧
        found = ps.map shownPair
  results : ∀ address time text threshold limit found,
    ((toService address time).search text threshold limit s).1 = .ok found →
      ∃ v threshold limit, found =
        (Similarity.nearestRecords v threshold limit s.store.written.all).map shownResult

private theorem comesBack_of_holds {ids : List String} {es : List Element} (hs : Answerable s)
    (h : Holds s ids es) : ComesBack s ids es where
  held := h
  rows r hr := Row.record?_ofRecord (hs.lines r hr).short
  shown _ hr := Tables.mem_records_of_mem_all hr
  similar _ _ _ _ _ _ hfound := findSimilar_ok hs hfound
  pairs _ _ _ _ _ hfound := findPairs_ok hs hfound
  results _ _ _ _ _ _ hfound := search_ok hs hfound

private theorem submitAll_toService (haddress : IsRoot address) (time : String) (hs : Answerable s)
    {es : List Element} {ids : List String} (hlines : ∀ e ∈ es, IsLine e.metadata.lineNumber)
    (hindex : s.indexBatch es = (.ok ids, s')) :
    ∃ d, Demand.submitAll es = .ok d ∧
      (∃ body, (toService address time).send (d.request address) s = (.reply 200 body, s')) ∧
        (toService address time).submitAll es s = (.ok ids, s') := by
  have hdemand := Demand.submitAll_of_writable fun e he => (hlines e he).short
  refine ⟨_, hdemand, ?_⟩
  have hplain : (Demand.takingAll (es.map fun e => e.loose.toJson)).body.Plain :=
    .json (.arr (List.forall_mem_map.mpr fun e he => e.readable_toJson (hlines e he).short))
  have hrespond : s.respond time
      ((Demand.takingAll (es.map fun e => e.loose.toJson)).request address) =
        (⟨200, .obj [("ids", .arr (ids.map .str))]⟩, s') := by
    rw [Demand.request_takingAll haddress, respond_batch time _ hlines, hindex]
    rfl
  have hids : listOf "ids" (fun j => .ok j.plain) (.obj [("ids", .arr (ids.map .str))]) =
      .ok ids := by
    have hlist : listOf "ids" (fun j => .ok j.plain) (.obj [("ids", .arr (ids.map .str))]) =
        .ok (ids.map id) := listOf_eq fun _ _ => rfl
    rwa [List.map_id] at hlist
  refine ⟨⟨_, send_written time hplain hrespond⟩, ?_⟩
  simp only [submitAll, callOf, hdemand,
    call_ok time hs hplain (by simp [Demand.takingAll]) hrespond hids, length_of_indexBatch hindex,
    if_true]

private theorem submit_toService (haddress : IsRoot address) (time : String) (hs : Answerable s)
    {e : Element} {id : String} (hline : IsLine e.metadata.lineNumber)
    (hindex : s.index e = (.ok id, s')) :
    ∃ d, Demand.submit e = .ok d ∧
      (∃ body, (toService address time).send (d.request address) s = (.reply 200 body, s')) ∧
        (toService address time).submit e s = (.ok id, s') := by
  have hdemand : Demand.submit e = .ok (.taking e.loose.toJson) :=
    Demand.submit_of_writable hline.short
  refine ⟨_, hdemand, ?_⟩
  have hplain : (Demand.taking e.loose.toJson).body.Plain := .json (e.readable_toJson hline.short)
  have hrespond : s.respond time ((Demand.taking e.loose.toJson).request address) =
      (⟨200, .obj [("id", .str id)]⟩, s') := by
    rw [Demand.request_taking haddress, respond_elements time _ hline, hindex]
    rfl
  refine ⟨⟨_, send_written time hplain hrespond⟩, ?_⟩
  simp only [submit, callOf, hdemand]
  exact call_ok time hs hplain (by simp [Demand.taking]) hrespond rfl

/-- The ids of a list that has been indexed lead to its elements ever after. -/
theorem comesBack_of_indexBatch (hnumbered : Numbered s) {es : List Element}
    {ids : List String} (hindex : s.indexBatch es = (.ok ids, s')) (hs' : Answerable s')
    (after : List (Visit τ)) : ComesBack (s'.serve after) ids es := by
  have hids : ∀ id ∈ ids, ∃ n < s'.drawn, id = s'.ids n := by
    obtain ⟨rfl, -, vs, store, asked, rfl, -⟩ := indexBatch_ok hindex
    intro id hid
    obtain ⟨n, -, hn, rfl⟩ := mem_nextIds hid
    exact ⟨n, hn, rfl⟩
  have hnumbered' : Numbered s' := hnumbered.grows (grows_indexBatch hindex)
  have hheld := (holds_indexBatch hnumbered hindex).grows hnumbered' hids
    (grows_serve hs'.settled after)
  exact comesBack_of_holds (answerable_serve hs' after) hheld

/-- Elements that have a text and a line that can be held are accepted by a service that started
with an empty store and whose provider answers, be it one element or a list of them. Whatever
requests follow, answers to questions show them as they were submitted. So it is with all elements
that are extracted. -/
theorem elements_come_back {s₀ : Service Float τ} {ttl : τ} (hstore : s₀.store = Store.empty ttl)
    (hinjective : Function.Injective s₀.ids) {provider : Embedding.Provider Float} {limit d : Nat}
    (hembedder : s₀.embedder = ⟨some provider, limit⟩)
    (hprovider : Embedding.KeepsLength provider d) (before : List (Visit τ)) (moment : τ)
    (time : String) (haddress : IsRoot address) :
    let s : Service Float τ := { s₀.serve before with now := moment }
    let client := toService address time
    (∀ e : Element, e.Submittable → ∃ d id body s', Demand.submit e = .ok d ∧
      client.send (d.request address) s = (.reply 200 body, s') ∧
        client.submit e s = (.ok id, s') ∧ ∀ after, ComesBack (s'.serve after) [id] [e]) ∧
      (∀ es : List Element, (∀ e ∈ es, e.Submittable) → ∃ d ids body s',
        Demand.submitAll es = .ok d ∧ client.send (d.request address) s = (.reply 200 body, s') ∧
          client.submitAll es s = (.ok ids, s') ∧ ids.length = es.length ∧
          ∀ after, ComesBack (s'.serve after) ids es) ∧
      ∀ content includes excludes origin es,
        Extraction.extract content includes excludes origin = .ok es → ∀ e ∈ es,
          e.metadata.lineNumber ≤ content.toList.length ∧
            (e.metadata.lineNumber < 2 ^ 63 → e.Submittable) := by
  intro s client
  have hs : Answerable s := (answerable_serve (.empty hstore) before).at_moment moment
  have hgrows : Grows s₀ (s₀.serve before) := grows_serve (Answerable.empty hstore).settled before
  have hnumbered₀ : Numbered s₀ := ⟨hinjective, by rw [hstore]; exact fun _ h => nomatch h⟩
  have hbefore : Numbered (s₀.serve before) := hnumbered₀.grows hgrows
  have hnumbered : Numbered s := ⟨hbefore.injective, hbefore.records⟩
  have hsame : s.embedder = ⟨some provider, limit⟩ := hgrows.embedder.trans hembedder
  have hindexed : ∀ es : List Element, (∀ e ∈ es, e.Submittable) → ∃ ids s',
      s.indexBatch es = (.ok ids, s') ∧ ∀ after, ComesBack (s'.serve after) ids es := by
    intro es hes
    obtain ⟨ids, s', hindex⟩ := exists_indexBatch_of_submittable hs hsame hprovider hes
    have hs' := hs.of_indexBatch (fun e he => (hes e he).isLine) hindex
    exact ⟨ids, s', hindex, comesBack_of_indexBatch hnumbered hindex hs'⟩
  refine ⟨fun e he => ?_, fun es hes => ?_, fun _ _ _ _ _ => Extraction.submittable⟩
  · obtain ⟨ids, s', hindex, hback⟩ := hindexed [e] (by simpa using he)
    obtain ⟨id, rfl⟩ := List.length_eq_one_iff.mp (length_of_indexBatch hindex)
    have hone : s.index e = (.ok id, s') := by
      rw [index_eq_indexBatch s he.text, hindex]
      rfl
    obtain ⟨d, hdemand, ⟨body, hsend⟩, hsubmit⟩ :=
      submit_toService haddress time hs he.isLine hone
    exact ⟨d, id, body, s', hdemand, hsend, hsubmit, hback⟩
  · obtain ⟨ids, s', hindex, hback⟩ := hindexed es hes
    obtain ⟨d, hdemand, ⟨body, hsend⟩, hsubmit⟩ :=
      submitAll_toService haddress time hs (fun e he => (hes e he).isLine) hindex
    exact ⟨d, ids, body, s', hdemand, hsend, hsubmit, length_of_indexBatch hindex, hback⟩

private def freshService : Service Float Int where
  store := Store.empty 10
  embedder := ⟨some fun _ _ => .ok [1, 2], 100⟩
  ids := fun n => String.ofList (List.replicate (n + 1) 'i')
  now := 0

private theorem injective_ids : Function.Injective freshService.ids := by
  intro m n h
  have hlist := congrArg String.toList h
  simpa [freshService] using hlist

private def plainElement : Element :=
  ⟨⟨"a.js", 1, "f", none, some "", some "/p"⟩, "a \"quoted\" text\n"⟩

/-- A hash that is an empty text stays one, and the commit that is not known stays unknown. -/
theorem elements_come_back_empty_hash :
    let client : Connection (Service Float Int) := toService defaultAddress "now"
    let s' := (client.submit plainElement freshService).2
    plainElement.Submittable ∧ (client.submit plainElement freshService).1 = .ok "i" ∧
      (∀ after, ComesBack (s'.serve after) ["i"] [plainElement]) ∧
      ((client.search "f" (.whole 0) 5 s').1.toOption.map (·.map (·.element.toJson.write))) =
        some [plainElement.loose.toJson.write] := by
  intro client s'
  have hplain : plainElement.Submittable := ⟨by decide, by decide, by decide⟩
  have hstore : freshService.store = Store.empty 10 := rfl
  have hroot : IsRoot defaultAddress := by decide
  have hback := elements_come_back hstore injective_ids rfl (fun _ _ => ⟨_, rfl, rfl⟩) [] 0 "now"
    hroot
  obtain ⟨d, id, body, s₁, -, -, hsubmit, hall⟩ := hback.1 plainElement hplain
  have hsubmit : client.submit plainElement freshService = (.ok id, s₁) := hsubmit
  have hid : (client.submit plainElement freshService).1 = .ok "i" := by decide +kernel
  obtain rfl : id = "i" := Except.ok.inj (hid ▸ congrArg Prod.fst hsubmit).symm
  have hs' : s' = s₁ := congrArg Prod.snd hsubmit
  exact ⟨hplain, hid, hs' ▸ hall, by decide +kernel⟩

end Connection

end CodeTwins
