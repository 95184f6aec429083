import CodeTwins.Proofs.Text.Utf8
import CodeTwins.Service.Arrival

/-!
# Bytes as texts

It makes no difference whether the body of a request arrives as bytes or is given as the text that they
encode.
-/
namespace CodeTwins.Service

open Http

variable {τ : Type} [LT τ] [DecidableRel (α := τ) (· < ·)] [Add τ] {a : Arrival}

theorem Arrival.route?_eq_some_iff {route : Route} :
    a.route? = some route ↔ Route.ofPath a.path = some route ∧ route.allows a.method = true :=
  Option.filter_eq_some_iff

theorem respond_of_route {route : Route} (h : a.route? = some route) (time : String)
    (s : Service Float τ) (body : Content) :
    s.respond time (a.request body) = s.answer time route (a.request body) := by
  obtain ⟨hroute, hmethod⟩ := Arrival.route?_eq_some_iff.mp h
  simp only [respond, Arrival.request, hroute, hmethod, if_true]

/-- A body counts only for the value that it carries. -/
theorem respond_congr (time : String) (s : Service Float τ) {r : Request} {body : Content}
    (h : carried body = carried r.body) : s.respond time { r with body } = s.respond time r := by
  have hbody : ∀ {γ : Type} (check : Json → Checked γ) (run : γ → Response × Service Float τ),
      s.checkedBody body check run = s.checkedBody r.body check run := by
    intro γ check run
    rw [checkedBody, checkedBody, h]
  unfold respond answer
  simp only [hbody]

private theorem respond_request_congr (time : String) (s : Service Float τ) {body body' : Content}
    (h : carried body = carried body') :
    s.respond time (a.request body) = s.respond time (a.request body') :=
  respond_congr time s (r := a.request body') h

/-- A body counts only where something is posted. -/
theorem answer_of_ne_post (time : String) (s : Service Float τ) {route : Route}
    (hallows : route.allows a.method = true) (h : a.method ≠ .post) (body body' : Content) :
    s.answer time route (a.request body) = s.answer time route (a.request body') := by
  cases route with
  | elements =>
    cases hmethod : a.method with
    | delete => simp only [answer, Arrival.request, hmethod]
    | post => exact absurd hmethod h
    | _ => simp [Route.allows, hmethod] at hallows
  | batch =>
    cases hmethod : a.method with
    | post => exact absurd hmethod h
    | _ => simp [Route.allows, hmethod] at hallows
  | _ => rfl

/-- Without a route, there is no difference between bodies. -/
theorem respond_of_route_eq_none (time : String) (s : Service Float τ) (h : a.route? = none)
    (body body' : Content) :
    s.respond time (a.request body) = s.respond time (a.request body') := by
  cases hroute : Route.ofPath a.path with
  | none => simp only [respond, Arrival.request, hroute]
  | some route =>
    cases hallows : route.allows a.method with
    | true => cases h.symm.trans (Arrival.route?_eq_some_iff.mpr ⟨hroute, hallows⟩)
    | false => simp only [respond, Arrival.request, hroute, hallows, Bool.false_eq_true, if_false]

/-- A body that cannot be read to its end is told in the words of the framework. -/
theorem answer_of_unreadable (time : String) (s : Service Float τ) {route : Route}
    (hallows : route.allows a.method = true) (hpost : a.method = .post) {body : Content}
    (hbody : carried body = none) :
    s.answer time route (a.request body) =
      (detailResponse 400 "There was an error parsing the body", s) := by
  cases route with
  | elements => simp only [answer, Arrival.request, hpost, checkedBody, hbody]
  | batch => simp only [answer, Arrival.request, checkedBody, hbody]
  | _ => simp [Route.allows, hpost] at hallows

/-- A body without a value is told as a problem of the request. -/
theorem answer_of_bad (time : String) (s : Service Float τ) {route : Route}
    (hallows : route.allows a.method = true) (hpost : a.method = .post) {body : Content}
    {ps : List Problem} (hbody : carried body = some (.bad ps)) :
    s.answer time route (a.request body) = (errorResponse 400 (Problem.summary ps), s) := by
  cases route with
  | elements => simp only [answer, Arrival.request, hpost, checkedBody, hbody]
  | batch => simp only [answer, Arrival.request, checkedBody, hbody]
  | _ => simp [Route.allows, hpost] at hallows

private theorem encode_eq_nil_iff {text : String} : Utf8.encode text = [] ↔ text = "" := by
  constructor
  · intro h
    rw [Utf8.encode_eq] at h
    cases hchars : text.toList with
    | nil => exact String.toList_eq_nil_iff.mp hchars
    | cons c cs =>
      obtain ⟨first, more, hfirst, -⟩ := Utf8.exists_pieceAt c
      simp [hchars, hfirst] at h
  · rintro rfl
    decide +kernel

private theorem read_plain (text : String) :
    Framework.plain.read (Utf8.encode text) =
      match Content.readJson text with
      | .ok j => .value j
      | .error (.notJson place) => .refused place
      | .error .tooManyDigits => .unreadable := by
  cases hread : Content.readJson text with
  | ok j => simp only [Framework.plain, Utf8.decode_encode, String.ofList_toList, hread]
  | error refusal =>
    cases refusal <;> simp only [Framework.plain, Utf8.decode_encode, String.ofList_toList, hread]

private theorem Arrival.unread_of_encode {text : String} (h : a.bytes = Utf8.encode text)
    (hne : text ≠ "") : a.unread = .json (.str text) := by
  have hbytes : a.bytes ≠ [] := by
    rw [h]
    exact mt encode_eq_nil_iff.mp hne
  have hlossy : Utf8.lossy (Utf8.encode text) = text.toList := by
    have htext := Utf8.decode_encode text
    unfold Utf8.decode at htext
    split at htext
    · cases htext
    · exact Except.ok.inj htext
  rw [Arrival.unread, if_neg (by simpa using hbytes), h, hlossy, String.ofList_toList]

/-- The bytes of a text are answered as the text is. -/
theorem handle_plain (time : String) (s : Service Float τ) {text : String}
    (h : a.bytes = Utf8.encode text) :
    s.handle .plain time a = s.respond time (a.request (.text a.type text)) := by
  unfold handle
  change (if a.isRead then _ else _) = _
  cases hroute : a.route? with
  | none =>
    have hread : ¬ a.isRead = true := by simp [Arrival.isRead, hroute]
    rw [if_neg hread]
    exact respond_of_route_eq_none time s hroute _ _
  | some route =>
    have hallows := (Arrival.route?_eq_some_iff.mp hroute).2
    by_cases hpost : a.method = .post
    · by_cases hempty : text = ""
      · have hbytes : a.bytes = [] := h.trans (encode_eq_nil_iff.mpr hempty)
        have hread : ¬ a.isRead = true := by simp [Arrival.isRead, hbytes]
        rw [if_neg hread, Arrival.unread, if_pos (by simp [hbytes]), hempty]
        exact respond_request_congr time s rfl
      · have hbytes : a.bytes ≠ [] := by
          rw [h]
          exact mt encode_eq_nil_iff.mp hempty
        cases htype : a.type.all isJsonType with
        | false =>
          have hread : ¬ a.isRead = true := by simp [Arrival.isRead, htype]
          rw [if_neg hread, Arrival.unread_of_encode h hempty]
          exact respond_request_congr time s (by simp [carried, htype])
        | true =>
          have hread : a.isRead = true := by simp [Arrival.isRead, hroute, hpost, hbytes, htype]
          rw [if_pos hread, h, read_plain]
          cases hj : Content.readJson text with
          | ok j =>
            exact respond_request_congr time s (by simp [carried, htype, hj])
          | error refusal =>
            cases refusal with
            | notJson place =>
              have hbad : carried (.text a.type text) =
                  some (.bad [⟨[toString place], .notJson⟩]) := by
                simp [carried, htype, hj, Checked.within, Checked.complain]
              rw [respond_of_route hroute, answer_of_bad time s hallows hpost hbad]
            | tooManyDigits =>
              have hnone : carried (.text a.type text) = none := by simp [carried, htype, hj]
              rw [respond_of_route hroute, answer_of_unreadable time s hallows hpost hnone]
    · have hread : ¬ a.isRead = true := by simp [Arrival.isRead, hpost]
      rw [if_neg hread, respond_of_route hroute, respond_of_route hroute]
      exact answer_of_ne_post time s hallows hpost _ _

end CodeTwins.Service
