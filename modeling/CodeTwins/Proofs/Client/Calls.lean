import CodeTwins.Proofs.Client.Wire
import CodeTwins.Proofs.Service.Bounds
import CodeTwins.Proofs.Similarity.Ranking

/-!
# What a client gets from a service

The requests of a client to a service at the root of a server, and what the client makes of the
replies to them. The answer to a question is a list of what the records hold.
-/
namespace CodeTwins

open Http Client Store

/-- The address leads to the root of a server. -/
def Client.IsRoot (address : String) : Prop :=
  (Url.ofString address).target = []

instance (address : String) : Decidable (IsRoot address) :=
  inferInstanceAs (Decidable (_ = _))

namespace Demand

variable {address : String}

private theorem request_of_root (haddress : IsRoot address) {d : Demand} {path : String}
    (hd : d.path = path) (htarget : targetBelow [] path.toList = path.toList)
    (hsplit : splitTarget path.toList = (path.toList, []))
    (hresolved : resolvedPath path.toList = path) :
    d.request address = ⟨d.method, (Url.ofString address).host, path, d.query, d.body⟩ := by
  have hroot : (Url.ofString address).target = [] := haddress
  simp only [request, hroot, hd, htarget, hsplit, hresolved]
  cases d.query <;> rfl

theorem request_taking (haddress : IsRoot address) (element : Json) :
    (taking element).request address =
      ⟨.post, (Url.ofString address).host, "/elements", [], .json element⟩ :=
  request_of_root haddress rfl (by decide) (by decide) (by decide +kernel)

theorem request_takingAll (haddress : IsRoot address) (elements : List Json) :
    (takingAll elements).request address =
      ⟨.post, (Url.ofString address).host, "/elements/batch", [], .json (.arr elements)⟩ :=
  request_of_root haddress rfl (by decide) (by decide) (by decide +kernel)

end Demand

/-- A pair that has been written as a JSON value is read as it was. -/
theorem SimilarPair.ofJson_toJson (e e' : Element) (score : Float) :
    SimilarPair.ofJson (SimilarPair.mk e.loose e'.loose score).toJson =
      .ok ⟨e.loose, e'.loose, score⟩ := by
  simp only [SimilarPair.ofJson, SimilarPair.toJson, Json.required, Json.field?]
  simp [ok_bind, e.ofJson_toJson, e'.ofJson_toJson, Json.toFloat]

private theorem SearchResult.ofJson_toJson (e : Element) (score : Float) :
    SearchResult.ofJson (SearchResult.mk e.loose score).toJson = .ok ⟨e.loose, score⟩ := by
  simp only [SearchResult.ofJson, SearchResult.toJson, Json.required, Json.field?]
  simp [ok_bind, e.ofJson_toJson, Json.toFloat]

namespace Connection

section Lists

variable {β γ : Type} {name : String} {item : Json → Except Misfit β}

theorem listOf_eq {shown : γ → Json} {value : γ → β} {l : List γ}
    (h : ∀ x ∈ l, item (shown x) = .ok (value x)) :
    listOf name item (.obj [(name, .arr (l.map shown))]) = .ok (l.map value) := by
  have hfield : Json.required (.obj [(name, .arr (l.map shown))]) name =
      .ok (.arr (l.map shown)) := by simp [Json.required, Json.field?]
  rw [listOf, hfield, ok_bind, Json.members, ok_bind, mapM_map_ok h]

private theorem listOf_ok {fields : List (String × Json)} {l : List β}
    (h : listOf name item (.obj fields) = .ok l) : ∃ j, Json.field? name fields = some j := by
  cases hfield : Json.field? name fields with
  | some j => exact ⟨j, rfl⟩
  | none =>
    rw [listOf, Json.required, hfield] at h
    cases h

open Service

private theorem listOf_shownPair
    (ps : List (Scored Float (Record Element (Vec Float) × Record Element (Vec Float)))) :
    listOf "pairs" SimilarPair.ofJson
      (.obj [("pairs", .arr (ps.map fun p => (shownPair p).toJson))]) = .ok (ps.map shownPair) :=
  listOf_eq fun _ _ => SimilarPair.ofJson_toJson _ _ _

private theorem listOf_shownResult (rs : List (Scored Float (Record Element (Vec Float)))) :
    listOf "results" SearchResult.ofJson
      (.obj [("results", .arr (rs.map fun r => (shownResult r).toJson))]) =
      .ok (rs.map shownResult) :=
  listOf_eq fun _ _ => SearchResult.ofJson_toJson _ _

end Lists

open Service

variable {τ β : Type} [LT τ] [DecidableRel (α := τ) (· < ·)] [Add τ] {s s' : Service Float τ}
  {address : String}

/-- A client of a service to which requests and replies go as texts. -/
def toService (address time : String) : Connection (Service Float τ) :=
  ⟨address, (Service.transport time).written⟩

private theorem call_toService (time : String) (hs : Answerable s) {d : Demand}
    (hbody : d.body.Plain) (hask : d.method ≠ .delete) (parse : Json → Except Misfit β)
    {status : Nat} {j : Json} (hrespond : s.respond time (d.request address) = (⟨status, j⟩, s')) :
    (toService address time).call d parse s =
      ((toService (τ := τ) address time).read d parse (.reply status (.json j)), s') := by
  rw [toService, call_written hs hbody hask]
  simp only [call, Service.transport, hrespond]
  rfl

theorem call_ok (time : String) (hs : Answerable s) {d : Demand}
    (hbody : d.body.Plain) (hask : d.method ≠ .delete) {parse : Json → Except Misfit β} {j : Json}
    {b : β} (hrespond : s.respond time (d.request address) = (⟨200, j⟩, s'))
    (hparse : parse j = .ok b) :
    (toService address time).call d parse s = (.ok b, s') := by
  rw [call_toService time hs hbody hask parse hrespond]
  have hsuccess : isSuccess 200 = true := by decide
  simp only [read, hsuccess, Content.value, hparse, Bool.not_true, Bool.false_eq_true, if_false]

/-- What a client gets has been read from a body that tells of the records. -/
theorem tells_of_call {time : String} (hs : Answerable s) {d : Demand} (hbody : d.body.Plain)
    (hask : d.method ≠ .delete) {parse : Json → Except Misfit β} {b : β}
    (h : ((toService address time).call d parse s).1 = .ok b) :
    ∃ j, Tells (d.request address) s.store.written.all j ∧ parse j = .ok b := by
  rcases hreply : s.respond time (d.request address) with ⟨⟨status, j⟩, s'⟩
  have htells := tells_respond hs time (d.request address)
  rw [hreply] at htells
  rw [call_toService time hs hbody hask parse hreply] at h
  simp only [read, Content.value] at h
  split at h
  case isTrue => cases h
  case isFalse =>
    split at h
    case h_1 hparse => exact ⟨j, htells, hparse.trans (congrArg _ (Except.ok.inj h))⟩
    case h_2 => cases h

private theorem tells_of_within {time : String} (hs : Answerable s) {d : Demand}
    (hbody : d.body.Plain) (hask : d.method ≠ .delete) {threshold : Number} {limit : Int}
    {parse : Json → Except Misfit β} {b : β}
    (h : ((toService address time).callOf (d.within threshold limit) parse s).1 = .ok b) :
    ∃ request j, request.method ≠ .delete ∧ Tells request s.store.written.all j ∧
      parse j = .ok b := by
  unfold Demand.within at h
  cases hfields : Demand.boundFields threshold limit with
  | error m =>
    rw [hfields] at h
    cases h
  | ok fields =>
    rw [hfields] at h
    have hsame : { d with query := d.query ++ fields }.body.Plain := hbody
    obtain ⟨j, htells, hparse⟩ := tells_of_call hs hsame hask h
    exact ⟨_, j, hask, htells, hparse⟩

section Questions

variable {records : List (Record Element (Vec Float))} {time : String} (hs : Answerable s)
include hs

theorem findSimilar_ok {id : String} {threshold : Number} {limit : Int}
    {found : List (Element Json)}
    (h : ((toService address time).findSimilar id threshold limit s).1 = .ok found) :
    ∃ target threshold limit, found =
      (Similarity.alikeRecords target threshold limit s.store.written.all).map
        fun r => r.element.loose := by
  obtain ⟨request, j, hask, htells, hparse⟩ := tells_of_within hs .empty (by simp) h
  cases htells with
  | similar target threshold limit =>
    rw [listOf_eq fun r _ => r.element.ofJson_toJson] at hparse
    exact ⟨target, threshold, limit, (Except.ok.inj hparse).symm⟩
  | pairs | results =>
    obtain ⟨j, hj⟩ := listOf_ok hparse
    cases hj
  | wiped hdelete _ => exact absurd hdelete hask
  | other _ hnames =>
    obtain ⟨j, hj⟩ := listOf_ok hparse
    cases hj.symm.trans (hnames _ (by simp))

theorem findPairs_ok {threshold : Number} {limit : Int} {found : List (SimilarPair Json)}
    (h : ((toService address time).findPairs threshold limit s).1 = .ok found) :
    ∃ threshold limit ps, Similarity.closest threshold limit s.store.written.all = .ok ps ∧
      found = ps.map shownPair := by
  obtain ⟨request, j, hask, htells, hparse⟩ := tells_of_within hs .empty (by simp) h
  cases htells with
  | pairs hps =>
    rw [listOf_shownPair] at hparse
    exact ⟨_, _, _, hps, (Except.ok.inj hparse).symm⟩
  | similar | results =>
    obtain ⟨j, hj⟩ := listOf_ok hparse
    cases hj
  | wiped hdelete _ => exact absurd hdelete hask
  | other _ hnames =>
    obtain ⟨j, hj⟩ := listOf_ok hparse
    cases hj.symm.trans (hnames _ (by simp))

theorem search_ok {text : String} {threshold : Number} {limit : Int}
    {found : List (SearchResult Json)}
    (h : ((toService address time).search text threshold limit s).1 = .ok found) :
    ∃ v threshold limit, found =
      (Similarity.nearestRecords v threshold limit s.store.written.all).map shownResult := by
  obtain ⟨request, j, hask, htells, hparse⟩ := tells_of_within hs .empty (by simp) h
  cases htells with
  | results v threshold limit =>
    rw [listOf_shownResult] at hparse
    exact ⟨v, threshold, limit, (Except.ok.inj hparse).symm⟩
  | similar | pairs =>
    obtain ⟨j, hj⟩ := listOf_ok hparse
    cases hj
  | wiped hdelete _ => exact absurd hdelete hask
  | other _ hnames =>
    obtain ⟨j, hj⟩ := listOf_ok hparse
    cases hj.symm.trans (hnames _ (by simp))

end Questions

private theorem respond_pairs (hs : Answerable s)
    (hfinite : ∀ r ∈ s.store.written.all, r.vector.IsFinite)
    (time host : String) {query : List (String × String)} {bound : Float × Int}
    (hbound : bounds query = .ok bound) :
    s.respond time ⟨.get, host, "/similar/all", query, .empty⟩ =
      (⟨200, .obj [("pairs", .arr (((Similarity.ranking bound.1 s.store.written.all).take
        bound.2.toNat).map fun p => (shownPair p).toJson))]⟩, s) := by
  have hclosest := Similarity.closest_eq_take bound.1 bound.2 hfinite
  have hpairs := findPairs_of_answerable hs bound.1 bound.2
  rw [hclosest] at hpairs
  rw [respond, ofPath_pairs]
  simp only [Route.allows, if_true, answer, hbound, checked, hpairs]
  simp only [reply, Except.mapError, Except.map, listJson_pairs hs hclosest]

/-- A client that asks for the closest pairs gets the first ones of the ranking. -/
theorem findPairs_toService (haddress : IsRoot address) (time : String) (hs : Answerable s)
    (hfinite : ∀ r ∈ s.store.written.all, r.vector.IsFinite) {threshold : Number}
    (hthreshold : threshold.isWithinUnit = true) {limit : Int} (hpos : 0 ≤ limit)
    (hlimit : limit < 10 ^ Numeral.maxDigits) :
    (toService address time).findPairs threshold limit s =
      (.ok (((Similarity.ranking threshold.toFloat s.store.written.all).take limit.toNat).map
        shownPair), s) := by
  obtain ⟨fields, hfields, hbound⟩ := bounds_boundFields hthreshold hpos hlimit
  simp only [findPairs, Demand.findPairs, Demand.within, hfields, List.nil_append, Except.map,
    callOf]
  have hrequest : Demand.request
      { action := .findPairs, method := .get, path := "/similar/all", query := fields } address =
      ⟨.get, (Http.Url.ofString address).host, "/similar/all", fields, .empty⟩ :=
    Demand.request_of_root haddress rfl (by decide) (by decide) (by decide +kernel)
  refine call_ok time hs .empty (by simp) ?_ (listOf_shownPair _)
  rw [hrequest]
  exact respond_pairs hs hfinite time _ hbound

end Connection

end CodeTwins
