import CodeTwins.Proofs.Service.Arrival
import CodeTwins.Proofs.Service.Requests

/-!
# Effects of what arrives

What arrives as bytes has no effect that a request with a body does not have: it either reaches the
service as such a request, or is answered before and changes nothing. So every state that arrivals lead
to is one that visits lead to, and a request that fails leaves the store as it is, in whichever form it
comes.
-/
namespace CodeTwins.Service

open Http Store

/-- An arrival at a moment. The text of the time is given. -/
structure TimedArrival (τ : Type) where
  moment : τ
  time : String
  arrival : Arrival

/-- The visit with a text as the body, in the place of bytes. -/
def TimedArrival.visit {τ : Type} (a : TimedArrival τ) (text : String) : Visit τ :=
  ⟨a.moment, a.time, a.arrival.request (.text a.arrival.type text)⟩

variable {τ : Type} [LT τ] [DecidableRel (α := τ) (· < ·)] [Add τ] (w : Framework)

/-- The reply to what arrives, and the service after it. -/
def takeIn (s : Service Float τ) (a : TimedArrival τ) : Response × Service Float τ :=
  { s with now := a.moment }.handle w a.time a.arrival

/-- The service after arrivals. -/
def takeInAll (s : Service Float τ) (arrivals : List (TimedArrival τ)) : Service Float τ :=
  arrivals.foldl (fun s a => (s.takeIn w a).2) s

private theorem ne_post_of_showsPage {method : Method} (h : showsPage method = true) :
    method ≠ .post := by
  rintro rfl
  exact absurd h (by decide)

/-- What arrives has the effect of a request, whatever its bytes are read as. -/
theorem effect_handle {s : Service Float τ} (hs : s.store.Settled) (time : String) (a : Arrival) :
    ∃ body, Effect s (a.request body) (s.handle w time a) := by
  unfold handle
  split
  case h_1 page hpage =>
    refine ⟨.empty, .none (.refl s) fun hpost => ?_⟩
    by_cases hshown : showsPage a.method = true
    · exact absurd hpost (ne_post_of_showsPage hshown)
    · rw [if_neg hshown]
      exact (by decide : 405 ≠ 200)
  case h_2 =>
    split
    case isFalse => exact ⟨_, effect_respond hs time _⟩
    case isTrue =>
      split
      case h_1 j _ => exact ⟨.json j, effect_respond hs time _⟩
      case h_2 | h_3 => exact ⟨.empty, .none (.refl s) fun _ => (by decide : 400 ≠ 200)⟩

/-- What arrives leaves the service as some visit would. -/
theorem exists_receive_eq_takeIn (s : Service Float τ) (a : TimedArrival τ) :
    ∃ v, (s.receive v).2 = (s.takeIn w a).2 := by
  -- a visit to no route changes nothing but the moment
  have hnowhere : ∃ v, (s.receive v).2 = { s with now := a.moment } :=
    ⟨⟨a.moment, a.time, { method := .get, path := "" }⟩, by
      have hroute : Route.ofPath "" = none := by decide +kernel
      simp only [receive, respond, hroute]⟩
  unfold takeIn handle
  split
  case h_1 => exact hnowhere
  case h_2 =>
    split
    case isFalse => exact ⟨⟨a.moment, a.time, a.arrival.request a.arrival.unread⟩, rfl⟩
    case isTrue =>
      split
      case h_1 j _ => exact ⟨⟨a.moment, a.time, a.arrival.request (.json j)⟩, rfl⟩
      case h_2 | h_3 => exact hnowhere

/-- Every state that arrivals lead to is one that visits lead to. -/
theorem exists_serve_eq_takeInAll (s : Service Float τ) (arrivals : List (TimedArrival τ)) :
    ∃ visits, s.serve visits = s.takeInAll w arrivals := by
  induction arrivals generalizing s with
  | nil => exact ⟨[], rfl⟩
  | cons a arrivals ih =>
    obtain ⟨v, hv⟩ := exists_receive_eq_takeIn w s a
    obtain ⟨visits, hvisits⟩ := ih (s.takeIn w a).2
    refine ⟨v :: visits, ?_⟩
    calc s.serve (v :: visits) = (s.receive v).2.serve visits := rfl
      _ = (s.takeIn w a).2.serve visits := by rw [hv]
      _ = s.takeInAll w (a :: arrivals) := hvisits

private theorem settled_takeInAll {s : Service Float τ} (hs : s.store.Settled)
    (arrivals : List (TimedArrival τ)) : (s.takeInAll w arrivals).store.Settled := by
  obtain ⟨visits, hvisits⟩ := exists_serve_eq_takeInAll w s arrivals
  rw [← hvisits]
  exact settled_serve hs visits

/-- A request that is not answered with status 200 leaves the store exactly as it is, and so does
every request that only asks to get something. It is the same for requests that arrive as bytes,
whatever the framework reads them as. The bytes of a text are a request with that text. -/
theorem store_of_receive {s₀ : Service Float τ} (hs₀ : s₀.store.Settled) :
    (∀ (visits : List (Visit τ)) (v : Visit τ),
      let s := s₀.serve visits
      let (reply, s') := s.receive v
      (reply.status ≠ 200 → s'.store = s.store) ∧
        (v.request.method = .get → s'.store = s.store)) ∧
    (∀ (w : Framework) (arrivals : List (TimedArrival τ)) (a : TimedArrival τ),
      let s := s₀.takeInAll w arrivals
      let (reply, s') := s.takeIn w a
      (reply.status ≠ 200 → s'.store = s.store) ∧
        (a.arrival.method = .get → s'.store = s.store)) ∧
    ∀ (s : Service Float τ) (a : TimedArrival τ) (text : String),
      a.arrival.bytes = Utf8.encode text → s.takeIn .plain a = s.receive (a.visit text) := by
  refine ⟨fun visits v => ?_, fun w arrivals a => ?_, fun s a text => handle_plain a.time _⟩
  · have heffect := effect_receive (settled_serve hs₀ visits) v
    exact ⟨fun hstatus => heffect.store_eq (.inl hstatus), fun hget => heffect.store_eq (.inr hget)⟩
  · obtain ⟨body, heffect⟩ :=
      effect_handle w (s := { s₀.takeInAll w arrivals with now := a.moment })
        (settled_takeInAll w hs₀ arrivals) a.time a.arrival
    exact ⟨fun hstatus => heffect.store_eq (.inl hstatus), fun hget => heffect.store_eq (.inr hget)⟩

/-- A body that describes an element. -/
private def elementBody (name text : String) : Json :=
  .obj [("metadata", .obj [("filePath", .str "a.js"), ("lineNumber", .int 1),
    ("elementName", .str name), ("fileHash", .str "h")]), ("elementString", .str text)]

private def hastyService : Service Float Int where
  store := Store.empty 10
  embedder := ⟨some fun _ text => if text = "slow" then .error (.timedOut "30.0") else .ok [1], 100⟩
  ids := fun n => String.ofList (List.replicate n 'a')
  now := 0

/-- A list whose second element is not embedded in time leaves the one element that was there, and so
does a text that breaks off. -/
theorem store_of_receive_late :
    let first : Visit Int :=
      ⟨0, "", { method := .post, path := "/elements", body := .json (elementBody "f" "quick") }⟩
    let batch : Visit Int :=
      ⟨1, "", { method := .post, path := "/elements/batch",
                body := .json (.arr [elementBody "g" "quick", elementBody "h" "slow"]) }⟩
    let all : Visit Int := ⟨2, "", { method := .get, path := "/similar/all" }⟩
    let torn : TimedArrival Int :=
      ⟨3, "", { method := .post, path := "/elements", bytes := Utf8.encode "[" }⟩
    let s := hastyService.serve [first]
    s.store.written.all.length = 1 ∧
      ((s.receive batch).1.status = 504 ∧ (s.receive batch).2.store = s.store) ∧
      ((s.receive all).1.status = 200 ∧ (s.receive all).2.store = s.store) ∧
      (s.takeIn .plain torn).1.status = 400 ∧ (s.takeIn .plain torn).2.store = s.store ∧
      s.takeIn .plain torn = s.receive (torn.visit "[") := by
  intro first batch all torn s
  have hs : hastyService.store.Settled := settled_empty 10
  have hs₁ : s.store.Settled := settled_serve hs [first]
  have hstatus : (s.receive batch).1.status = 504 := by decide +kernel
  have htorn : (s.takeIn .plain torn).1.status = 400 := by decide +kernel
  refine ⟨by decide +kernel, ⟨hstatus, ?_⟩, ⟨by decide +kernel, ?_⟩, htorn, ?_, ?_⟩
  · exact ((store_of_receive hs).1 [first] batch).1 (hstatus.trans_ne (by decide))
  · exact ((store_of_receive hs).1 [first] all).2 rfl
  · exact ((store_of_receive hs₁).2.1 .plain [] torn).1 (htorn.trans_ne (by decide))
  · exact (store_of_receive hs).2.2 s torn "[" rfl

end CodeTwins.Service
