import CodeTwins.Client.Calls
import CodeTwins.Proofs.Element.Encode
import CodeTwins.Proofs.Json.Shape

/-!
# What a client makes of replies

A client takes what it asks for from replies that report success and carry a JSON value of the right
shape. Whatever else comes of a request is a failure that is foreseen, unless a number in the reply is
beyond all bounds.
-/
namespace CodeTwins

open Client

/-- A line that is an infinite number. -/
inductive Element.HasInfiniteLine : Json → Prop where
  | line {fields metadata : List (String × Json)} {negative : Bool}
      (hmetadata : Json.field? "metadata" fields = some (.obj metadata))
      (hline : Json.field? "lineNumber" metadata = some (.float (Decimal.infinity negative))) :
      HasInfiniteLine (.obj fields)

/-- A similarity that is an integer beyond all finite doubles. -/
def HasHugeSimilarity (fields : List (String × Json)) : Prop :=
  ∃ n, Json.field? "similarity" fields = some (.int n) ∧ (Decimal.ofInt n).isInf = true

/-- A pair in which the first number that cannot be taken is beyond all bounds. -/
inductive SimilarPair.BeyondBounds : Json → Prop where
  | first {fields : List (String × Json)} {j : Json}
      (hfirst : Json.field? "element1" fields = some j) (hline : Element.HasInfiniteLine j) :
      BeyondBounds (.obj fields)
  | second {fields : List (String × Json)} {j j' : Json} {e : Element Json}
      (hfirst : Json.field? "element1" fields = some j) (he : Element.ofJson j = .ok e)
      (hsecond : Json.field? "element2" fields = some j') (hline : Element.HasInfiniteLine j') :
      BeyondBounds (.obj fields)
  | similarity {fields : List (String × Json)} {j j' : Json} {e e' : Element Json}
      (hfirst : Json.field? "element1" fields = some j) (he : Element.ofJson j = .ok e)
      (hsecond : Json.field? "element2" fields = some j') (he' : Element.ofJson j' = .ok e')
      (hsimilarity : HasHugeSimilarity fields) : BeyondBounds (.obj fields)

/-- A result in which the first number that cannot be taken is beyond all bounds. -/
inductive SearchResult.BeyondBounds : Json → Prop where
  | element {fields : List (String × Json)} {j : Json}
      (helement : Json.field? "element" fields = some j) (hline : Element.HasInfiniteLine j) :
      BeyondBounds (.obj fields)
  | similarity {fields : List (String × Json)} {j : Json} {e : Element Json}
      (helement : Json.field? "element" fields = some j) (he : Element.ofJson j = .ok e)
      (hsimilarity : HasHugeSimilarity fields) : BeyondBounds (.obj fields)

section Members

variable {j : Json} {fields : List (String × Json)}

private theorem Metadata.overflows_ofJson_iff :
    Overflows (Metadata.ofJson j) ↔ ∃ fields negative, j = .obj fields ∧
      Json.field? "lineNumber" fields = some (.float (Decimal.infinity negative)) := by
  rw [Metadata.ofJson, overflows_bind_of_not (Json.not_overflows_fields j)]
  simp only [Json.fields_eq_ok_iff, overflows_bind, pure, Except.pure, not_overflows_ok, and_false,
    exists_false, or_false, Json.overflows_toInt_iff]
  constructor
  · rintro ⟨fields, rfl, negative, hline⟩
    cases hfield : Json.field? "lineNumber" fields with
    | none => simp [hfield] at hline
    | some v => exact ⟨fields, negative, rfl, by simpa [hfield] using hline⟩
  · rintro ⟨fields, negative, rfl, hline⟩
    exact ⟨fields, rfl, negative, by simp [hline]⟩

private theorem Element.overflows_ofJson_iff :
    Overflows (Element.ofJson j) ↔ Element.HasInfiniteLine j := by
  rw [Element.ofJson, overflows_bind_of_not (Json.not_overflows_fields j)]
  simp only [Json.fields_eq_ok_iff, overflows_bind, pure, Except.pure, not_overflows_ok, and_false,
    exists_false, or_false, Metadata.overflows_ofJson_iff]
  constructor
  · rintro ⟨fields, rfl, metadata, negative, hmetadata, hline⟩
    cases hfield : Json.field? "metadata" fields with
    | none =>
      rw [hfield] at hmetadata
      cases hmetadata
      cases hline
    | some v =>
      rw [hfield, Option.getD_some] at hmetadata
      split at hmetadata
      · exact .line (hmetadata ▸ hfield) hline
      · cases hmetadata
        cases hline
  · rintro ⟨hmetadata, hline⟩
    rename_i metadata negative
    refine ⟨_, rfl, metadata, negative, ?_, hline⟩
    have hgiven : (Json.obj metadata).isGiven = true := by
      cases metadata with
      | nil => cases hline
      | cons => rfl
    simp [hmetadata, hgiven]

private theorem overflows_similarity_iff :
    (∃ v, Json.field? "similarity" fields = some v ∧ Overflows v.toFloat) ↔
      HasHugeSimilarity fields := by
  simp only [Json.overflows_toFloat_iff]
  constructor
  · rintro ⟨_, hfield, n, rfl, hhuge⟩
    exact ⟨n, hfield, hhuge⟩
  · rintro ⟨n, hfield, hhuge⟩
    exact ⟨_, hfield, n, rfl, hhuge⟩

private theorem SimilarPair.overflows_ofJson_iff :
    Overflows (SimilarPair.ofJson j) ↔ SimilarPair.BeyondBounds j := by
  rw [SimilarPair.ofJson, overflows_bind_of_not (Json.not_overflows_required j "element1")]
  simp only [Json.required_eq_ok_iff, overflows_bind, pure, Except.pure, not_overflows_ok, and_false,
    exists_false, or_false, Element.overflows_ofJson_iff, Json.not_overflows_required, false_or]
  constructor
  · rintro ⟨_, ⟨fields, rfl, hfirst⟩, hline | ⟨e, he, _, ⟨_, hobj, hsecond⟩, hrest⟩⟩
    · exact .first hfirst hline
    · cases hobj
      rcases hrest with hline | ⟨e', he', v, ⟨_, hobj, hfield⟩, hv⟩
      · exact .second hfirst he hsecond hline
      · cases hobj
        exact .similarity hfirst he hsecond he' (overflows_similarity_iff.mp ⟨v, hfield, hv⟩)
  · intro h
    cases h with
    | first hfirst hline => exact ⟨_, ⟨_, rfl, hfirst⟩, .inl hline⟩
    | second hfirst he hsecond hline =>
      exact ⟨_, ⟨_, rfl, hfirst⟩, .inr ⟨_, he, _, ⟨_, rfl, hsecond⟩, .inl hline⟩⟩
    | similarity hfirst he hsecond he' hsimilarity =>
      obtain ⟨v, hfield, hv⟩ := overflows_similarity_iff.mpr hsimilarity
      exact ⟨_, ⟨_, rfl, hfirst⟩, .inr ⟨_, he, _, ⟨_, rfl, hsecond⟩,
        .inr ⟨_, he', v, ⟨_, rfl, hfield⟩, hv⟩⟩⟩

private theorem SearchResult.overflows_ofJson_iff :
    Overflows (SearchResult.ofJson j) ↔ SearchResult.BeyondBounds j := by
  rw [SearchResult.ofJson, overflows_bind_of_not (Json.not_overflows_required j "element")]
  simp only [Json.required_eq_ok_iff, overflows_bind, pure, Except.pure, not_overflows_ok, and_false,
    exists_false, or_false, Element.overflows_ofJson_iff, Json.not_overflows_required, false_or]
  constructor
  · rintro ⟨_, ⟨fields, rfl, helement⟩, hline | ⟨e, he, v, ⟨_, hobj, hfield⟩, hv⟩⟩
    · exact .element helement hline
    · cases hobj
      exact .similarity helement he (overflows_similarity_iff.mp ⟨v, hfield, hv⟩)
  · intro h
    cases h with
    | element helement hline => exact ⟨_, ⟨_, rfl, helement⟩, .inl hline⟩
    | similarity helement he hsimilarity =>
      obtain ⟨v, hfield, hv⟩ := overflows_similarity_iff.mpr hsimilarity
      exact ⟨_, ⟨_, rfl, helement⟩, .inr ⟨_, he, v, ⟨_, rfl, hfield⟩, hv⟩⟩

/-- A list at a field, of which the first member that is not read is of some kind. -/
inductive FirstUnread {β : Type} (name : String) (item : Json → Except Misfit β) (P : Json → Prop) :
    Json → Prop where
  | list {fields : List (String × Json)} {before after : List Json} {j : Json}
      (hlist : Json.field? name fields = some (.arr (before ++ j :: after)))
      (hbefore : ∀ j ∈ before, ∃ b, item j = .ok b) (hunread : P j) :
      FirstUnread name item P (.obj fields)

/-- A list of things with numbers overflows at a member. Names and characters are no such things. -/
theorem overflows_listOf_iff {β : Type} {name : String} {item : Json → Except Misfit β}
    {P : Json → Prop} (hitem : ∀ j, Overflows (item j) ↔ P j) (htext : ∀ s, ¬ P (.str s)) :
    Overflows (Connection.listOf name item j) ↔ FirstUnread name item P j := by
  rw [Connection.listOf, overflows_bind_of_not (Json.not_overflows_required j name)]
  simp only [Json.required_eq_ok_iff, overflows_bind, Json.not_overflows_members, false_or,
    overflows_mapM_iff, hitem]
  constructor
  · rintro ⟨v, ⟨fields, rfl, hfield⟩, _, hmembers, before, j, after, rfl, hbefore, hunread⟩
    cases v with
    | arr items =>
      obtain rfl := Except.ok.inj hmembers
      exact .list hfield hbefore hunread
    | obj names =>
      have hmem : j ∈ names.map fun f => Json.str f.1 := by simp [Except.ok.inj hmembers]
      obtain ⟨f, -, rfl⟩ := List.mem_map.mp hmem
      exact absurd hunread (htext f.1)
    | str s =>
      have hmem : j ∈ s.toList.map fun c => Json.str (String.singleton c) := by
        simp [Except.ok.inj hmembers]
      obtain ⟨c, -, rfl⟩ := List.mem_map.mp hmem
      exact absurd hunread (htext _)
    | null | bool | int | float => cases hmembers
  · rintro ⟨hlist, hbefore, hunread⟩
    exact ⟨_, ⟨_, rfl, hlist⟩, _, rfl, _, _, _, rfl, hbefore, hunread⟩

end Members

private theorem Outcome.carries_or_not (o : Outcome) : (∃ j, o.Carries j) ∨ ∀ j, ¬ o.Carries j := by
  rw [← not_exists]
  exact Classical.em _

private theorem Client.Failure.isForeseen_eq_false_iff {f : Failure} :
    f.isForeseen = false ↔ ∃ m, f = .unbounded m := by
  cases f <;> simp [Failure.isForeseen]

namespace Connection

variable {σ β : Type} {c : Connection σ} {d : Demand} {parse : Json → Except Misfit β} {o : Outcome}

/-- A value that a reply carries decides, up to how it is told that it has not the right shape. -/
theorem read_of_carries {j : Json} (h : o.Carries j) (c : Connection σ) (d : Demand)
    (parse : Json → Except Misfit β) :
    ∃ unusable : Failure, unusable.isForeseen = true ∧
      c.read d parse o =
        (parse j).mapError fun m => if m.isUnbounded then .unbounded m else unusable := by
  obtain ⟨hstatus, hvalue⟩ := h
  rename_i status body
  refine ⟨.unusable d.action c.address status body.shown, rfl, ?_⟩
  cases hparse : parse j <;> simp [read, hstatus, hvalue, hparse, Except.mapError]

private theorem read_of_not_carries (h : ∀ j, ¬ o.Carries j) (c : Connection σ) (d : Demand)
    (parse : Json → Except Misfit β) :
    ∃ f : Failure, f.isForeseen = true ∧ c.read d parse o = .error f := by
  cases o with
  | timeout reason | unreachable reason => exact ⟨_, rfl, rfl⟩
  | reply status body =>
    cases hstatus : isSuccess status with
    | false =>
      refine ⟨.refused d.action status body.shown, rfl, ?_⟩
      simp only [read, hstatus, Bool.not_false, if_true]
    | true =>
      cases hvalue : body.value with
      | error refusal =>
        refine ⟨.unusable d.action c.address status body.shown, rfl, ?_⟩
        simp [read, hstatus, hvalue]
      | ok j => exact absurd (.reply hstatus hvalue) (h j)

/-- What is read is a value that a reply carries, in the right shape. -/
theorem read_eq_ok_iff {b : β} :
    c.read d parse o = .ok b ↔ ∃ j, o.Carries j ∧ parse j = .ok b := by
  constructor
  · intro h
    rcases o.carries_or_not with ⟨j, hcarries⟩ | hnone
    · obtain ⟨unusable, -, hread⟩ := read_of_carries hcarries c d parse
      exact ⟨j, hcarries, mapError_eq_ok_iff.mp (hread.symm.trans h)⟩
    · obtain ⟨f, -, hread⟩ := read_of_not_carries hnone c d parse
      cases hread.symm.trans h
  · rintro ⟨j, hcarries, hparse⟩
    obtain ⟨unusable, -, hread⟩ := read_of_carries hcarries c d parse
    rw [hread, hparse]
    rfl

/-- All failures are foreseen but that of a value with a number beyond all bounds. -/
theorem read_eq_unbounded_iff {m : Misfit} :
    c.read d parse o = .error (.unbounded m) ↔
      ∃ j, o.Carries j ∧ parse j = .error m ∧ m.isUnbounded = true := by
  constructor
  · intro h
    rcases o.carries_or_not with ⟨j, hcarries⟩ | hnone
    · obtain ⟨unusable, hforeseen, hread⟩ := read_of_carries hcarries c d parse
      obtain ⟨m', hparse, hm⟩ := mapError_eq_error_iff.mp (hread.symm.trans h)
      split at hm
      case isTrue hunbounded =>
        cases hm
        exact ⟨j, hcarries, hparse, hunbounded⟩
      case isFalse =>
        subst hm
        cases hforeseen
    · obtain ⟨f, hforeseen, hread⟩ := read_of_not_carries hnone c d parse
      cases hread.symm.trans h
      cases hforeseen
  · rintro ⟨j, hcarries, hparse, hunbounded⟩
    obtain ⟨unusable, -, hread⟩ := read_of_carries hcarries c d parse
    rw [hread, hparse]
    simp only [Except.mapError, hunbounded, if_true]

end Connection

namespace Demand

variable {e : Element} {es : List Element}

theorem submit_of_writable (h : e.Writable) : submit e = .ok (taking e.loose.toJson) := by
  rw [submit, Element.encode_of_writable h]
  rfl

theorem submit_of_not_writable (h : ¬ e.Writable) : submit e = .error (.tooManyDigits none) := by
  rw [submit, Element.encode_of_not_writable h]
  rfl

theorem submitAll_of_writable (h : ∀ e ∈ es, e.Writable) :
    submitAll es = .ok (takingAll (es.map fun e => e.loose.toJson)) := by
  rw [submitAll, Element.mapM_encode h]
  rfl

theorem submitAll_of_mem (he : e ∈ es) (hlong : ¬ e.Writable) :
    submitAll es = .error (.tooManyDigits none) := by
  rw [submitAll, Element.mapM_encode_of_mem he hlong]
  rfl

end Demand

/-- What a server is asked, by the type of the answer. -/
inductive Asking : Type → Type where
  | submit (e : Element) : Asking String
  | submitAll (es : List Element) : Asking (List String)
  | wipe : Asking Int
  | findSimilar (id : String) (threshold : Number) (limit : Int) : Asking (List (Element Json))
  | findPairs (threshold : Number) (limit : Int) : Asking (List (SimilarPair Json))
  | search (text : String) (threshold : Number) (limit : Int) : Asking (List (SearchResult Json))
  | checkHealth : Asking (List (String × Json))

namespace Asking

open Connection

variable {σ β : Type}

def call (c : Connection σ) : Asking β → Call σ β
  | submit e => c.submit e
  | submitAll es => c.submitAll es
  | wipe => c.wipe
  | findSimilar id threshold limit => c.findSimilar id threshold limit
  | findPairs threshold limit => c.findPairs threshold limit
  | search text threshold limit => c.search text threshold limit
  | checkHealth => c.checkHealth

/-- What is sent, if it can be written. -/
def demand : Asking β → Except Misfit Demand
  | submit e => Demand.submit e
  | submitAll es => Demand.submitAll es
  | wipe => .ok .wipe
  | findSimilar id threshold limit => Demand.findSimilar id threshold limit
  | findPairs threshold limit => Demand.findPairs threshold limit
  | search text threshold limit => Demand.search text threshold limit
  | checkHealth => .ok .checkHealth

/-- How a value that a reply carries is read. -/
def parse : Asking β → Json → Except Misfit β
  | submit _ => fun j => do return (← j.required "id").plain
  | submitAll _ => listOf "ids" fun j => .ok j.plain
  | wipe => fun j => do (← j.required "deletedCount").toInt
  | findSimilar _ _ _ => listOf "similarElements" Element.ofJson
  | findPairs _ _ => listOf "pairs" SimilarPair.ofJson
  | search _ _ _ => listOf "results" SearchResult.ofJson
  | checkHealth => fieldsOf

/-- Elements that are submitted in one request get one id each. -/
def Fits : Asking β → β → Prop
  | submitAll es, ids => ids.length = es.length
  | _, _ => True

/-- The first number that cannot be taken of a value is beyond all bounds. -/
def BeyondBounds : Asking β → Json → Prop
  | wipe, j => ∃ fields negative, j = .obj fields ∧
    Json.field? "deletedCount" fields = some (.float (Decimal.infinity negative))
  | findSimilar _ _ _, j => FirstUnread "similarElements" Element.ofJson Element.HasInfiniteLine j
  | findPairs _ _, j => FirstUnread "pairs" SimilarPair.ofJson SimilarPair.BeyondBounds j
  | search _ _ _, j => FirstUnread "results" SearchResult.ofJson SearchResult.BeyondBounds j
  | submit _, _ | submitAll _, _ | checkHealth, _ => False

private theorem overflows_fieldsOf (j : Json) : ¬ Overflows (fieldsOf j) := by
  cases j with
  | obj fields => exact not_overflows_ok _
  | _ =>
    rw [fieldsOf, overflows_bind_of_not (Json.not_overflows_members _)]
    · rintro ⟨members, -, hfields⟩
      split at hfields
      · exact not_overflows_ok _ hfields
      · obtain ⟨m, hm, hunbounded⟩ := hfields
        cases hm
        cases hunbounded
    · exact nofun

theorem overflows_parse_iff (a : Asking β) (j : Json) :
    Overflows (a.parse j) ↔ a.BeyondBounds j := by
  cases a with
  | submit e => simp [parse, BeyondBounds, overflows_bind, pure, Except.pure]
  | submitAll es =>
    have hitem : ∀ j : Json, Overflows (Except.ok j.plain : Except Misfit String) ↔ False :=
      fun j => iff_false_intro (not_overflows_ok _)
    refine (overflows_listOf_iff hitem fun _ => id).trans (iff_false_intro ?_)
    rintro ⟨-, -, hunread⟩
    exact hunread
  | wipe =>
    rw [parse, overflows_bind_of_not (Json.not_overflows_required j _)]
    simp only [Json.required_eq_ok_iff, Json.overflows_toInt_iff, BeyondBounds]
    constructor
    · rintro ⟨_, ⟨fields, rfl, hfield⟩, negative, rfl⟩
      exact ⟨fields, negative, rfl, hfield⟩
    · rintro ⟨fields, negative, rfl, hfield⟩
      exact ⟨_, ⟨fields, rfl, hfield⟩, negative, rfl⟩
  | findSimilar id threshold limit =>
    exact overflows_listOf_iff (fun _ => Element.overflows_ofJson_iff) fun _ => nofun
  | findPairs threshold limit =>
    exact overflows_listOf_iff (fun _ => SimilarPair.overflows_ofJson_iff) fun _ => nofun
  | search text threshold limit =>
    exact overflows_listOf_iff (fun _ => SearchResult.overflows_ofJson_iff) fun _ => nofun
  | checkHealth => exact iff_false_intro (overflows_fieldsOf j)

/-- The answer, unless there are not as many ids as elements. -/
def check : Asking β → β → Except Failure β
  | submitAll es, ids =>
    if ids.length = es.length then .ok ids else .error (.miscounted es.length ids.length)
  | _, b => .ok b

variable {c : Connection σ} {a : Asking β} {d : Demand} {s : σ}

private theorem check_eq_ok_iff {b b' : β} : a.check b = .ok b' ↔ b = b' ∧ a.Fits b' := by
  cases a with
  | submitAll es =>
    rw [check]
    split
    case isTrue hlength =>
      constructor
      · rintro ⟨⟩
        exact ⟨rfl, hlength⟩
      · rintro ⟨rfl, -⟩
        rfl
    case isFalse hlength =>
      refine iff_of_false nofun ?_
      rintro ⟨rfl, hfits⟩
      exact hlength hfits
  | _ => simp [check, Fits]

private theorem isForeseen_of_check {b : β} {f : Failure} (h : a.check b = .error f) :
    f.isForeseen = true := by
  cases a with
  | submitAll es =>
    rw [check] at h
    split at h <;> cases h
    rfl
  | _ => cases h

/-- The answer is read from what comes of one request. -/
theorem call_eq (hdemand : a.demand = .ok d) (c : Connection σ) (s : σ) :
    let (o, s') := c.send (d.request c.address) s
    a.call c s = ((c.read d a.parse o).bind a.check, s') := by
  have hcall : ∀ {γ : Type} (parse : Json → Except Misfit γ), c.call d parse s =
      ((c.read d parse (c.send (d.request c.address) s).1).bind .ok,
        (c.send (d.request c.address) s).2) := by
    intro γ parse
    unfold Connection.call
    dsimp only
    cases c.read d parse (c.send (d.request c.address) s).1 <;> rfl
  have hcallOf : ∀ {demand : Except Misfit Demand}, demand = .ok d →
      ∀ {γ : Type} (parse : Json → Except Misfit γ), c.callOf demand parse s = c.call d parse s := by
    rintro _ rfl γ parse
    rfl
  cases a with
  | submit e => exact (hcallOf hdemand _).trans (hcall _)
  | submitAll es =>
    have hdemand : Demand.submitAll es = .ok d := hdemand
    simp only [call, Connection.submitAll, hcallOf hdemand, Connection.call, parse]
    cases c.read d (listOf "ids" fun j => .ok j.plain) (c.send (d.request c.address) s).1 <;> rfl
  | wipe =>
    cases hdemand
    exact hcall _
  | findSimilar id threshold limit => exact (hcallOf hdemand _).trans (hcall _)
  | findPairs threshold limit => exact (hcallOf hdemand _).trans (hcall _)
  | search text threshold limit => exact (hcallOf hdemand _).trans (hcall _)
  | checkHealth =>
    cases hdemand
    exact hcall _

/-- What cannot be written is not sent. -/
theorem call_of_not_demand {m : Misfit} (h : a.demand = .error m) (c : Connection σ) (s : σ) :
    a.call c s = (.error (.unbounded m), s) := by
  have hcallOf : ∀ {demand : Except Misfit Demand}, demand = .error m →
      ∀ {γ : Type} (parse : Json → Except Misfit γ),
        c.callOf demand parse s = (.error (.unbounded m), s) := by
    rintro _ rfl γ parse
    rfl
  cases a with
  | wipe | checkHealth => cases h
  | submit e => exact hcallOf h _
  | submitAll es =>
    have h : Demand.submitAll es = .error m := h
    simp only [call, Connection.submitAll, hcallOf h]
  | findSimilar id threshold limit => exact hcallOf h _
  | findPairs threshold limit => exact hcallOf h _
  | search text threshold limit => exact hcallOf h _

theorem call_eq_ok_iff (hdemand : a.demand = .ok d) {b : β} :
    (a.call c s).1 = .ok b ↔
      ∃ j, (c.send (d.request c.address) s).1.Carries j ∧ a.parse j = .ok b ∧ a.Fits b := by
  rw [congrArg Prod.fst (call_eq hdemand c s)]
  constructor
  · intro h
    cases hread : c.read d a.parse (c.send (d.request c.address) s).1 with
    | error f =>
      rw [hread] at h
      cases h
    | ok b' =>
      rw [hread] at h
      obtain ⟨rfl, hfits⟩ := check_eq_ok_iff.mp h
      obtain ⟨j, hcarries, hparse⟩ := read_eq_ok_iff.mp hread
      exact ⟨j, hcarries, hparse, hfits⟩
  · rintro ⟨j, hcarries, hparse, hfits⟩
    have hread := (read_eq_ok_iff (c := c) (d := d)).mpr ⟨j, hcarries, hparse⟩
    rw [hread]
    exact check_eq_ok_iff.mpr ⟨rfl, hfits⟩

theorem call_eq_unbounded_iff (hdemand : a.demand = .ok d) {m : Misfit} :
    (a.call c s).1 = .error (.unbounded m) ↔
      ∃ j, (c.send (d.request c.address) s).1.Carries j ∧ a.parse j = .error m ∧
        m.isUnbounded = true := by
  rw [congrArg Prod.fst (call_eq hdemand c s), ← read_eq_unbounded_iff (c := c) (d := d)]
  cases c.read d a.parse (c.send (d.request c.address) s).1 with
  | error f => rfl
  | ok b =>
    refine iff_of_false (fun h => ?_) nofun
    cases isForeseen_of_check h

/-- A failure that is not foreseen comes of a value with a number beyond all bounds. -/
theorem call_unforeseen_iff (hdemand : a.demand = .ok d) :
    (∃ f, (a.call c s).1 = .error f ∧ f.isForeseen = false) ↔
      ∃ j, (c.send (d.request c.address) s).1.Carries j ∧ a.BeyondBounds j := by
  simp only [Failure.isForeseen_eq_false_iff, ← overflows_parse_iff]
  constructor
  · rintro ⟨_, h, m, rfl⟩
    obtain ⟨j, hcarries, hparse, hunbounded⟩ := (call_eq_unbounded_iff hdemand).mp h
    exact ⟨j, hcarries, m, hparse, hunbounded⟩
  · rintro ⟨j, hcarries, m, hparse, hunbounded⟩
    exact ⟨_, (call_eq_unbounded_iff hdemand).mpr ⟨j, hcarries, hparse, hunbounded⟩, m, rfl⟩

/-- Where no number can be beyond all bounds, there is an answer or a failure that is foreseen. -/
theorem call_cases (hdemand : a.demand = .ok d) (hbounds : ∀ j, ¬ a.BeyondBounds j)
    (c : Connection σ) (s : σ) :
    let (o, s') := c.send (d.request c.address) s
    (∃ b j, o.Carries j ∧ a.parse j = .ok b ∧ a.Fits b ∧ a.call c s = (.ok b, s')) ∨
      ∃ f, (∀ b j, o.Carries j → a.parse j = .ok b → ¬ a.Fits b) ∧ f.isForeseen = true ∧
        a.call c s = (.error f, s') := by
  have hstate := congrArg Prod.snd (call_eq hdemand c s)
  have hok := fun b => call_eq_ok_iff (c := c) (s := s) (b := b) hdemand
  have hunforeseen := call_unforeseen_iff (c := c) (s := s) hdemand
  rcases hcall : a.call c s with ⟨f | b, s'⟩ <;> rw [hcall] at hstate hok hunforeseen
  · refine .inr ⟨f, fun b j hcarries hparse hfits => ?_, ?_, Prod.ext rfl hstate⟩
    · cases (hok b).mpr ⟨j, hcarries, hparse, hfits⟩
    · by_contra hf
      obtain ⟨j, -, hbeyond⟩ := hunforeseen.mp ⟨f, rfl, by simpa using hf⟩
      exact hbounds j hbeyond
  · obtain ⟨j, hcarries, hparse, hfits⟩ := (hok b).mp rfl
    exact .inl ⟨b, j, hcarries, hparse, hfits, Prod.ext rfl hstate⟩

end Asking

end CodeTwins
