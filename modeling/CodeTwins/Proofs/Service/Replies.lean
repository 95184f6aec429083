import CodeTwins.Proofs.Element.Json
import CodeTwins.Proofs.Service.Queries
import CodeTwins.Proofs.Similarity.Pairs

/-!
# What replies tell

The body of a reply tells of elements that are like a record, of pairs of records, of records like a
text, or of no element at all. What it tells of elements it tells of those that the records hold.
-/
namespace CodeTwins

namespace Similarity

open Store

variable {ε α : Type} [Scalar α]

/-- The records most like a vector, with their scores. -/
def nearestRecords (v : Vec α) (threshold : α) (limit : Int) (records : List (Record ε (Vec α))) :
    List (Scored α (Record ε (Vec α))) :=
  Scored.best threshold limit (records.map fun r => ⟨Vec.cosine v r.vector, r⟩)

private theorem nearest_eq_map (v : Vec α) (threshold : α) (limit : Int)
    (records : List (Record ε (Vec α))) :
    nearest v threshold limit records =
      (nearestRecords v threshold limit records).map fun s => ⟨s.score, s.item.element⟩ := by
  have hscored : scoredAgainst v records =
      (records.map fun r => (⟨Vec.cosine v r.vector, r⟩ : Scored α (Record ε (Vec α)))).map
        fun s => ⟨s.score, s.item.element⟩ := by
    rw [scoredAgainst, List.map_map]
    rfl
  rw [nearest, hscored, Scored.best_map]
  rfl

private theorem mem_of_mem_nearestRecords {v : Vec α} {threshold : α} {limit : Int}
    {records : List (Record ε (Vec α))} {r : Scored α (Record ε (Vec α))}
    (h : r ∈ nearestRecords v threshold limit records) : r.item ∈ records := by
  obtain ⟨record, hrecord, rfl⟩ := List.mem_map.mp (mem_best h)
  exact hrecord

private theorem mem_of_mem_alikeRecords {target r : Record ε (Vec α)} {threshold : α} {limit : Int}
    {records : List (Record ε (Vec α))}
    (h : r ∈ alikeRecords target threshold limit records) : r ∈ records := by
  obtain ⟨scored, hscored, rfl⟩ := List.mem_map.mp h
  obtain ⟨record, hrecord, rfl⟩ := List.mem_map.mp (mem_best hscored)
  exact (List.mem_filter.mp hrecord).1

end Similarity

namespace Service

open Http Store Json

/-- An element of a record, as replies show it. -/
def shownElement (r : Record Element (Vec Float)) : Json :=
  r.element.loose.toJson

def shownPair (p : Scored Float (Record Element (Vec Float) × Record Element (Vec Float))) :
    SimilarPair Json :=
  ⟨p.item.1.element.loose, p.item.2.element.loose, p.score⟩

def shownResult (r : Scored Float (Record Element (Vec Float))) : SearchResult Json :=
  ⟨r.item.element.loose, r.score⟩

/-- What the body of the reply to a request may tell of the records. -/
inductive Tells (request : Request) (records : List (Record Element (Vec Float))) :
    Json → Prop where
  | similar (target : Record Element (Vec Float)) (threshold : Float) (limit : Int) :
      Tells request records (.obj [("similarElements", .arr
        ((Similarity.alikeRecords target threshold limit records).map shownElement))])
  | pairs {threshold : Float} {limit : Int}
      {ps : List (Scored Float (Record Element (Vec Float) × Record Element (Vec Float)))}
      (hps : Similarity.closest threshold limit records = .ok ps) :
      Tells request records (.obj [("pairs", .arr (ps.map fun p => (shownPair p).toJson))])
  | results (v : Vec Float) (threshold : Float) (limit : Int) :
      Tells request records (.obj [("results", .arr ((Similarity.nearestRecords v threshold limit
        records).map fun r => (shownResult r).toJson))])
  | wiped (hdelete : request.method = .delete) (n : Nat) :
      Tells request records (.obj [("success", .bool true), ("deletedCount", .int n)])
  | other {fields : List (String × Json)} (hreadable : Readable (.obj fields))
      (hnames : ∀ name ∈ ["similarElements", "pairs", "results"], field? name fields = none) :
      Tells request records (.obj fields)

section Tells

variable {request : Request} {records : List (Record Element (Vec Float))}

private theorem readable_list {γ : Type} {name : String} {l : List γ} {shown : γ → Json}
    (h : ∀ x ∈ l, Readable (shown x)) : Readable (.obj [(name, .arr (l.map shown))]) := by
  refine .obj (List.nodup_singleton _) fun field hfield => ?_
  obtain rfl := List.mem_singleton.mp hfield
  exact .arr (List.forall_mem_map.mpr h)

/-- What is told of records can be read from its text, unless it is how many have been wiped: a
number has no bound. -/
theorem Tells.readable {j : Json} (h : Tells request records j) (hask : request.method ≠ .delete)
    (hlines : ∀ r ∈ records, IsLine r.element.metadata.lineNumber) : Readable j := by
  have helement : ∀ r ∈ records, Readable (shownElement r) := fun r hr =>
    r.element.readable_toJson (hlines r hr).short
  cases h with
  | similar target threshold limit =>
    exact readable_list fun r hr => helement r (Similarity.mem_of_mem_alikeRecords hr)
  | pairs hps =>
    refine readable_list fun p hp => .obj (by simp) ?_
    obtain ⟨hfirst, hsecond⟩ := Similarity.mem_of_closest hps p hp
    simp only [List.forall_mem_cons]
    exact ⟨helement _ hfirst, helement _ hsecond, .float p.score, nofun⟩
  | results v threshold limit =>
    refine readable_list fun r hr => .obj (by simp) ?_
    simp only [List.forall_mem_cons]
    exact ⟨helement _ (Similarity.mem_of_mem_nearestRecords hr), .float r.score, nofun⟩
  | wiped hdelete _ => exact absurd hdelete hask
  | other hreadable _ => exact hreadable

/-- A body with one field, whose name is none of those for elements. -/
theorem Tells.single {name : String} {j : Json} (hj : Readable j)
    (hname : name ∉ ["similarElements", "pairs", "results"]) :
    Tells request records (.obj [(name, j)]) := by
  refine .other (.obj (List.nodup_singleton _) ?_) fun other hother => if_neg ?_
  · simpa using hj
  · rintro rfl
    exact hname hother

private theorem tells_errorResponse (status : Nat) (message : String) :
    Tells request records (errorResponse status message).body :=
  .single (.str _) (by decide)

private theorem tells_detailResponse (status : Nat) (detail : String) :
    Tells request records (detailResponse status detail).body :=
  .single (.str _) (by decide)

private theorem listJson_eq {γ δ : Type} {f : γ → Except Failure Json} {item : δ → γ}
    {shown : δ → Json} {l : List δ} (h : ∀ x ∈ l, f (item x) = .ok (shown x)) (name : String) :
    listJson name f (l.map item) = .ok (.obj [(name, .arr (l.map shown))]) := by
  rw [listJson, mapM_map_ok h]
  rfl

private theorem elementJson_eq {e : Element} (h : 1 ≤ e.metadata.lineNumber) :
    elementJson e = .ok e.loose.toJson :=
  if_neg (Int.not_lt.mpr h)

end Tells

section Respond

variable {τ : Type} {s : Service Float τ} {request : Request}

private theorem tells_reply {β : Type} {a : Answer Float τ β} {body : β → Except Failure Json}
    (h : ∀ b s', a = (.ok b, s') → ∀ j, body b = .ok j → Tells request s.store.written.all j) :
    Tells request s.store.written.all (reply a body).1.body := by
  rcases a with ⟨result, s'⟩
  cases result with
  | error f => exact tells_errorResponse _ _
  | ok b =>
    unfold reply
    dsimp only
    split
    case h_1 j hj => exact h b s' rfl j hj
    case h_2 => exact tells_errorResponse _ _

private theorem listJson_similar (hs : Answerable s) (target : Record Element (Vec Float))
    (threshold : Float) (limit : Int) :
    listJson "similarElements" elementJson
        (Similarity.alike target threshold limit s.store.written.all) =
      .ok (.obj [("similarElements", .arr ((Similarity.alikeRecords target threshold limit
        s.store.written.all).map shownElement))]) := by
  rw [Similarity.alike_eq_map]
  refine listJson_eq (fun r hr => ?_) _
  exact elementJson_eq (hs.line_of_mem_all (Similarity.mem_of_mem_alikeRecords hr)).one_le

theorem listJson_pairs (hs : Answerable s) {threshold : Float} {limit : Int}
    {ps : List (Scored Float (Record Element (Vec Float) × Record Element (Vec Float)))}
    (hps : Similarity.closest threshold limit s.store.written.all = .ok ps) :
    listJson "pairs" pairJson
        (ps.map fun p => ⟨p.score, (p.item.1.element, p.item.2.element)⟩) =
      .ok (.obj [("pairs", .arr (ps.map fun p => (shownPair p).toJson))]) := by
  refine listJson_eq (fun p hp => ?_) _
  obtain ⟨hfirst, hsecond⟩ := Similarity.mem_of_closest hps p hp
  rw [pairJson, elementJson_eq (hs.line_of_mem_all hfirst).one_le,
    elementJson_eq (hs.line_of_mem_all hsecond).one_le]
  rfl

private theorem listJson_results (hs : Answerable s) (v : Vec Float) (threshold : Float)
    (limit : Int) :
    listJson "results" resultJson (Similarity.nearest v threshold limit s.store.written.all) =
      .ok (.obj [("results", .arr ((Similarity.nearestRecords v threshold limit
        s.store.written.all).map fun r => (shownResult r).toJson))]) := by
  rw [Similarity.nearest_eq_map]
  refine listJson_eq (fun r hr => ?_) _
  rw [resultJson,
    elementJson_eq (hs.line_of_mem_all (Similarity.mem_of_mem_nearestRecords hr)).one_le]
  rfl

private theorem tells_findSimilar (hs : Answerable s) (id : String) (threshold : Float)
    (limit : Int) : Tells request s.store.written.all (reply (s.findSimilar id threshold limit)
      (listJson "similarElements" elementJson)).1.body := by
  refine tells_reply fun es s' hfind j hj => ?_
  have hget : s.onStore (·.get? id) = (.ok (s.store.written.get? id), s) :=
    hs.read fun t => t.get? id
  have hall : s.onStore (·.all) = (.ok s.store.written.all, s) := hs.read (·.all)
  rw [findSimilar, hget, ok_andThen] at hfind
  cases htarget : s.store.written.get? id with
  | none =>
    rw [htarget] at hfind
    cases hfind
  | some target =>
    rw [htarget] at hfind
    simp only [hall, ok_andThen] at hfind
    obtain rfl := Except.ok.inj (Prod.mk.inj hfind).1
    obtain rfl := Except.ok.inj ((listJson_similar hs target threshold limit).symm.trans hj)
    exact .similar target threshold limit

private theorem tells_findPairs (hs : Answerable s) (threshold : Float) (limit : Int) :
    Tells request s.store.written.all (reply (s.findPairs threshold limit)
      (listJson "pairs" pairJson)).1.body := by
  refine tells_reply fun ps s' hfind j hj => ?_
  rw [findPairs_of_answerable hs] at hfind
  cases hclosest : Similarity.closest threshold limit s.store.written.all with
  | error u =>
    rw [hclosest] at hfind
    cases hfind
  | ok pairs =>
    rw [hclosest] at hfind
    obtain rfl := Except.ok.inj (Prod.mk.inj hfind).1
    obtain rfl := Except.ok.inj ((listJson_pairs hs hclosest).symm.trans hj)
    exact .pairs hclosest

private theorem tells_search (hs : Answerable s) (text : String) (threshold : Float) (limit : Int) :
    Tells request s.store.written.all (reply (s.search text threshold limit)
      (listJson "results" resultJson)).1.body := by
  refine tells_reply fun rs s' hfind j hj => ?_
  unfold search at hfind
  split at hfind
  · cases hfind
  · obtain ⟨v, s₁, hask, hfind⟩ := andThen_ok hfind
    obtain ⟨asked, -, rfl⟩ := onEmbedder_ok hask
    have hs₁ : Answerable { s with asked := asked } := ⟨hs.settled, hs.isOpen, hs.lines⟩
    have hall : onStore { s with asked := asked } (·.all) =
        (.ok s.store.written.all, { s with asked := asked }) := hs₁.read (·.all)
    rw [searchVector, hall, ok_andThen] at hfind
    obtain rfl := Except.ok.inj (Prod.mk.inj hfind).1
    obtain rfl := Except.ok.inj ((listJson_results hs v threshold limit).symm.trans hj)
    exact .results v threshold limit

private theorem tells_checked {γ : Type} (c : Checked γ) {run : γ → Response × Service Float τ}
    (hrun : ∀ x, Tells request s.store.written.all (run x).1.body) :
    Tells request s.store.written.all (s.checked c run).1.body := by
  cases c with
  | ok x => exact hrun x
  | bad ps => exact tells_errorResponse _ _

private theorem tells_checkedBody {γ : Type} (body : Content) (check : Json → Checked γ)
    {run : γ → Response × Service Float τ}
    (hrun : ∀ x, Tells request s.store.written.all (run x).1.body) :
    Tells request s.store.written.all (s.checkedBody body check run).1.body := by
  unfold checkedBody
  split
  case h_1 j _ => exact tells_checked (check j) hrun
  case h_2 => exact tells_errorResponse _ _
  case h_3 => exact tells_detailResponse _ _

variable [LT τ] [DecidableRel (α := τ) (· < ·)] [Add τ]

/-- Whatever a request asks for, the body of the reply tells of the records as they are. -/
theorem tells_respond (hs : Answerable s) (time : String) (r : Request) :
    Tells r s.store.written.all (s.respond time r).1.body := by
  unfold respond
  split
  case h_1 => exact tells_detailResponse _ _
  case h_2 route _ =>
    split
    case isFalse => exact tells_detailResponse _ _
    case isTrue =>
      unfold answer
      split
      case h_1 hdelete _ _ =>
        refine tells_reply fun n s' _ j hj => ?_
        obtain rfl := Except.ok.inj hj
        exact .wiped hdelete n
      case h_2 =>
        refine tells_checkedBody _ _ fun e => tells_reply fun id s' _ j hj => ?_
        obtain rfl := Except.ok.inj hj
        exact .single (.str id) (by decide)
      case h_3 =>
        refine tells_checkedBody _ _ fun es => tells_reply fun ids s' _ j hj => ?_
        obtain rfl := Except.ok.inj hj
        refine .single (.arr ?_) (by decide)
        exact List.forall_mem_map.mpr fun id _ => .str id
      case h_4 => exact tells_checked _ fun x => tells_findPairs hs _ _
      case h_5 => exact tells_checked _ fun x => tells_findSimilar hs _ _ _
      case h_6 => exact tells_checked _ fun x => tells_search hs _ _ _
      case h_7 =>
        refine .other (.obj (by simp) ?_) (by simp [field?])
        simp only [List.forall_mem_cons]
        exact ⟨.str "ok", .str time, nofun⟩

end Respond

end Service
end CodeTwins
