import CodeTwins.Proofs.Service.Arrival

/-!
# How errors are told

Whatever arrives, a reply that is no success tells its error in one of two forms. What comes to the
service is told under the name of an error. What does not come through, since its path or its method is
not known or its body cannot be read, is told in the words of the framework.
-/
namespace CodeTwins.Service

open Http

/-- A body that tells an error, in words. -/
def TellsError (body : Json) : Prop :=
  ∃ message, message ≠ "" ∧ body = .obj [("error", .str message)]

section Handlers

variable {τ β γ : Type} {s : Service Float τ}

/-- A reply that is a success or tells an error. -/
def Sound (r : Response) : Prop :=
  400 ≤ r.status → TellsError r.body

private theorem tellsError_errorResponse (status : Nat) (message : String) :
    TellsError (errorResponse status message).body := by
  refine ⟨if message.isEmpty then "Internal server error" else message, ?_, rfl⟩
  by_cases h : message = ""
  · simp [h]
  · simp [h]

private theorem not_tellsError_detailResponse (status : Nat) (detail : String) :
    ¬ TellsError (detailResponse status detail).body := by
  rintro ⟨message, -, h⟩
  have hname : "detail" = "error" := congrArg Prod.fst (List.cons.inj (Json.obj.inj h)).1
  exact absurd hname (by decide)

private theorem sound_errorResponse (status : Nat) (message : String) :
    Sound (errorResponse status message) := by
  intro _
  exact tellsError_errorResponse status message

private theorem sound_ok (j : Json) : Sound ⟨200, j⟩ := by
  intro (h : 400 ≤ 200)
  omega

private theorem sound_reply (a : Answer Float τ β) (body : β → Except Failure Json) :
    Sound (reply a body).1 := by
  rcases a with ⟨result, s'⟩
  cases result with
  | error f => exact sound_errorResponse _ _
  | ok b =>
    unfold reply
    dsimp only
    cases body b with
    | ok j => exact sound_ok j
    | error f => exact sound_errorResponse _ _

private theorem sound_checked (c : Checked γ) {run : γ → Response × Service Float τ}
    (hrun : ∀ x, Sound (run x).1) : Sound (s.checked c run).1 := by
  cases c with
  | ok x => exact hrun x
  | bad ps => exact sound_errorResponse _ _

private theorem sound_checkedBody {body : Content} (hbody : carried body ≠ none)
    (check : Json → Checked γ) {run : γ → Response × Service Float τ}
    (hrun : ∀ x, Sound (run x).1) :
    Sound (s.checkedBody body check run).1 := by
  unfold checkedBody
  split
  case h_1 j _ => exact sound_checked (check j) hrun
  case h_2 => exact sound_errorResponse _ _
  case h_3 hnone => exact absurd hnone hbody

variable [LT τ] [DecidableRel (α := τ) (· < ·)] [Add τ]

/-- Whatever a route is asked, the reply is a success or tells an error. -/
theorem sound_answer (time : String) (s : Service Float τ) (route : Route) {r : Request}
    (hbody : carried r.body ≠ none) : Sound (s.answer time route r).1 := by
  unfold answer
  split
  case h_1 => exact sound_reply _ _
  case h_2 => exact sound_checkedBody hbody _ fun e => sound_reply _ _
  case h_3 => exact sound_checkedBody hbody _ fun es => sound_reply _ _
  case h_4 => exact sound_checked _ fun x => sound_reply _ _
  case h_5 => exact sound_checked _ fun x => sound_reply _ _
  case h_6 => exact sound_checked _ fun x => sound_reply _ _
  case h_7 => exact sound_ok _

end Handlers

section Arriving

variable {τ : Type} [LT τ] [DecidableRel (α := τ) (· < ·)] [Add τ]

/-- What does not come through to the service, and how the framework tells it. -/
inductive Stopped (w : Framework) (a : Arrival) : Nat → String → Prop where
  /-- The path leads nowhere. -/
  | path (hpage : w.page? a.path = none) (hroute : Route.ofPath a.path = none) :
      Stopped w a 404 "Not Found"
  /-- The path leads to a page, which is only shown. -/
  | pageMethod {page : Response} (hpage : w.page? a.path = some page)
      (hmethod : showsPage a.method = false) : Stopped w a 405 "Method Not Allowed"
  /-- The path leads to a route that does not allow the method. -/
  | method {route : Route} (hpage : w.page? a.path = none)
      (hroute : Route.ofPath a.path = some route) (hmethod : route.allows a.method = false) :
      Stopped w a 405 "Method Not Allowed"
  /-- The route wants a value, and the bytes cannot be read. -/
  | body (hpage : w.page? a.path = none) (hread : a.isRead = true)
      (hbytes : w.read a.bytes = .unreadable) :
      Stopped w a 400 "There was an error parsing the body"

variable {w : Framework} {a : Arrival}

/-- What does not come through leaves the service as it is. -/
theorem handle_of_stopped {status : Nat} {detail : String} (h : Stopped w a status detail)
    (time : String) (s : Service Float τ) :
    s.handle w time a = (detailResponse status detail, s) := by
  cases h with
  | path hpage hroute =>
    have hread : a.isRead = false := by simp [Arrival.isRead, Arrival.route?, hroute]
    simp [handle, hpage, hread, respond, Arrival.request, hroute]
  | pageMethod hpage hmethod => simp [handle, hpage, hmethod]
  | method hpage hroute hmethod =>
    have hread : a.isRead = false := by simp [Arrival.isRead, Arrival.route?, hroute, hmethod]
    simp [handle, hpage, hread, respond, Arrival.request, hroute, hmethod]
  | body hpage hread hbytes => simp [handle, hpage, hread, hbytes]

/-- Bytes that are not read count as a text, which can be read to its end. -/
theorem carried_unread_ne_none (a : Arrival) : carried a.unread ≠ none := by
  unfold Arrival.unread
  split <;> nofun

/-- A request that is not stopped takes a route, or asks for a page that is shown. -/
theorem exists_route_of_not_stopped (h : ¬ ∃ status detail, Stopped w a status detail)
    (hpage : w.page? a.path = none) : ∃ route, a.route? = some route := by
  cases hroute : Route.ofPath a.path with
  | none => exact absurd ⟨_, _, .path hpage hroute⟩ h
  | some route =>
    cases hmethod : route.allows a.method with
    | false => exact absurd ⟨_, _, .method hpage hroute hmethod⟩ h
    | true => exact ⟨route, Arrival.route?_eq_some_iff.mpr ⟨hroute, hmethod⟩⟩

/-- What comes through is answered with a success or with an error. -/
theorem sound_handle (h : ¬ ∃ status detail, Stopped w a status detail) (time : String)
    (s : Service Float τ) : Sound (s.handle w time a).1 := by
  unfold handle
  cases hpage : w.page? a.path with
  | some page =>
    cases hmethod : showsPage a.method with
    | false => exact absurd ⟨_, _, .pageMethod hpage hmethod⟩ h
    | true =>
      intro (hstatus : 400 ≤ page.status)
      have hsuccess := w.isSuccess_page a.path page hpage
      simp only [isSuccess, Bool.and_eq_true, decide_eq_true_eq] at hsuccess
      omega
  | none =>
    obtain ⟨route, hroute⟩ := exists_route_of_not_stopped h hpage
    dsimp only
    split
    case isTrue hread =>
      cases hbytes : w.read a.bytes with
      | value j =>
        dsimp only
        rw [respond_of_route hroute]
        exact sound_answer _ _ _ nofun
      | refused place => exact sound_errorResponse _ _
      | unreadable => exact absurd ⟨_, _, .body hpage hread hbytes⟩ h
    case isFalse =>
      rw [respond_of_route hroute]
      exact sound_answer _ _ _ (carried_unread_ne_none a)

/-- A reply that is no success tells an error, in words, where the request came through to the service.
Where it did not, the framework tells why, and the service stays as it is. -/
theorem errors_told_iff (w : Framework) (time : String) (s : Service Float τ) (a : Arrival)
    (hstatus : 400 ≤ (s.handle w time a).1.status) :
    (TellsError (s.handle w time a).1.body ↔ ¬ ∃ status detail, Stopped w a status detail) ∧
    ∀ status detail, Stopped w a status detail →
      s.handle w time a = (detailResponse status detail, s) := by
  refine ⟨⟨?_, ?_⟩, fun status detail h => handle_of_stopped h time s⟩
  · rintro htold ⟨status, detail, h⟩
    rw [handle_of_stopped h] at htold
    exact not_tellsError_detailResponse status detail htold
  · intro h
    exact sound_handle h time s hstatus

private def idleService : Service Float Int where
  store := Store.empty 10
  embedder := ⟨some fun _ _ => .error (.unreachable ""), 100⟩
  ids := toString
  now := 0

/-- A provider that cannot be reached and says nothing of it is told in words. -/
theorem errors_told_unreachable :
    let a : Arrival := { method := .get, path := "/search", query := [("q", "x")] }
    400 ≤ (idleService.handle .plain "" a).1.status ∧
      TellsError (idleService.handle .plain "" a).1.body := by
  intro a
  have hstatus : 400 ≤ (idleService.handle .plain "" a).1.status := by decide +kernel
  have hsearch : Route.ofPath a.path = some .search := by decide +kernel
  refine ⟨hstatus, (errors_told_iff .plain "" idleService a hstatus).1.mpr ?_⟩
  rintro ⟨status, detail, h⟩
  cases h with
  | path hpage hroute => cases hsearch.symm.trans hroute
  | pageMethod hpage hmethod => cases hpage
  | method hpage hroute hmethod =>
    cases hsearch.symm.trans hroute
    cases hmethod
  | body hpage hread hbytes =>
    have hunread : a.isRead = false := by simp [Arrival.isRead, a]
    cases hunread.symm.trans hread

/-- A path that leads nowhere is told in the words of the framework. -/
theorem unknown_path_told_otherwise :
    let reply := (idleService.handle .plain "" { method := .get, path := "/nope" }).1
    reply.status = 404 ∧ ¬ TellsError reply.body := by
  intro reply
  have hroute : Route.ofPath "/nope" = none := by decide +kernel
  have hreply := handle_of_stopped
    (.path rfl hroute : Stopped .plain { method := .get, path := "/nope" } 404 "Not Found") ""
    idleService
  have hreply' : reply = detailResponse 404 "Not Found" := congrArg Prod.fst hreply
  rw [hreply']
  exact ⟨rfl, not_tellsError_detailResponse 404 "Not Found"⟩

end Arriving

end CodeTwins.Service
