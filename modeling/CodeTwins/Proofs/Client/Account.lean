import CodeTwins.Client.Submission
import CodeTwins.Proofs.Client.Replies

/-!
# Accounts of submissions

A submission sends a request for each element, or one for all of them, whatever comes of the requests
before. It comes to a report, which accounts for every element, unless one of them cannot be written.
-/
namespace CodeTwins

open Client Http

variable {σ : Type}

/-- What comes of requests that are sent one after another, and the other side after them. -/
def Connection.sendAll (c : Connection σ) : List Request → σ → List Outcome × σ
  | [], s => ([], s)
  | r :: rs, s =>
    let (o, s) := c.send r s
    let (os, s) := c.sendAll rs s
    (o :: os, s)

private theorem Connection.length_sendAll (c : Connection σ) (rs : List Request) (s : σ) :
    (c.sendAll rs s).1.length = rs.length := by
  induction rs generalizing s with
  | nil => rfl
  | cons r rs ih => exact congrArg (· + 1) (ih _)

namespace Outcome

/-- The JSON value that a reply carries. -/
def carried? : Outcome → Option Json
  | .reply status body => if isSuccess status then body.value.toOption else none
  | .timeout _ | .unreachable _ => none

/-- The id of an element that is accepted. -/
def id? (o : Outcome) : Option String :=
  (o.carried?.bind (·.get? "id")).map Json.plain

/-- The ids of as many elements as are accepted together. -/
def ids? (n : Nat) (o : Outcome) : Option (List String) :=
  ((o.carried?.bind (·.get? "ids")).bind fun j => (j.members.map (·.map Json.plain)).toOption).filter
    (·.length = n)

variable {o : Outcome}

private theorem carried?_eq_some_iff {j : Json} : o.carried? = some j ↔ o.Carries j := by
  constructor
  · intro h
    cases o with
    | timeout | unreachable => cases h
    | reply status body =>
      rw [carried?] at h
      split at h
      case isTrue hstatus => exact .reply hstatus (toOption_eq_some_iff.mp h)
      case isFalse => cases h
  · rintro ⟨hstatus, hvalue⟩
    simp [carried?, hstatus, hvalue, Except.toOption]

private theorem id?_eq_some_iff (e : Element) {id : String} :
    o.id? = some id ↔ ∃ j, o.Carries j ∧ (Asking.submit e).parse j = .ok id := by
  have hparse : ∀ j : Json, ((Asking.submit e).parse j).toOption = (j.get? "id").map Json.plain := by
    intro j
    change (j.required "id" >>= fun v => pure v.plain).toOption = _
    rw [← Json.toOption_required]
    cases j.required "id" <;> rfl
  simp only [id?, Option.map_bind, Option.bind_eq_some_iff, carried?_eq_some_iff,
    ← toOption_eq_some_iff, hparse, Function.comp_apply]

private theorem ids?_eq_some_iff (es : List Element) {ids : List String} :
    o.ids? es.length = some ids ↔
      ∃ j, o.Carries j ∧ (Asking.submitAll es).parse j = .ok ids ∧
        (Asking.submitAll es).Fits ids := by
  have hmap : ∀ items : List Json, items.mapM (fun j => (.ok j.plain : Except Misfit String)) =
      .ok (items.map Json.plain) := by
    intro items
    rw [mapM_eq_ok_iff, List.forall₂_map_right_iff, List.forall₂_same]
    exact fun _ _ => rfl
  have hparse : ∀ j : Json, ((Asking.submitAll es).parse j).toOption =
      (j.get? "ids").bind fun v => (v.members.map (·.map Json.plain)).toOption := by
    intro j
    rw [← Json.toOption_required, Asking.parse, Connection.listOf]
    cases j.required "ids" with
    | error m => rfl
    | ok v =>
      rw [ok_bind]
      cases hmembers : v.members with
      | error m => simp [hmembers, error_bind, Except.toOption, Except.map]
      | ok items => simp [hmembers, ok_bind, hmap, Except.toOption, Except.map]
  simp only [ids?, Option.bind_assoc, Option.filter_eq_some_iff, Option.bind_eq_some_iff,
    carried?_eq_some_iff, ← toOption_eq_some_iff, hparse, Asking.Fits, decide_eq_true_iff]
  tauto

end Outcome

namespace Submission

variable {c : Connection σ} {e : Element} {es : List Element} {report : Submission}

/-- The report after what has come of one element more. -/
def account (report : Submission) (o : Outcome) : Submission :=
  match o.id? with
  | some id => { report with indexed := report.indexed + 1, ids := report.ids ++ [id] }
  | none => { report with failed := report.failed + 1 }

/-- Whatever comes of an element that is sent, it is accounted for. -/
theorem next_eq (c : Connection σ) (report : Submission) (he : e.Writable) (s : σ) :
    let (o, s') := c.send ((Demand.taking e.loose.toJson).request c.address) s
    next c report e s = (.ok (report.account o), s') := by
  have hdemand : (Asking.submit e).demand = .ok (.taking e.loose.toJson) :=
    Demand.submit_of_writable he
  obtain ⟨id, j, hcarries, hparse, -, hcall⟩ | ⟨f, hnone, hforeseen, hcall⟩ :=
    Asking.call_cases hdemand (fun _ => id) c s
  · have hid := (Outcome.id?_eq_some_iff e).mpr ⟨j, hcarries, hparse⟩
    have hsubmit : c.submit e s = _ := hcall
    simp only [next, hsubmit, account, hid]
  · have hid : (c.send ((Demand.taking e.loose.toJson).request c.address) s).1.id? = none := by
      refine Option.eq_none_iff_forall_ne_some.mpr fun id hid => ?_
      obtain ⟨j, hcarries, hparse⟩ := (Outcome.id?_eq_some_iff e).mp hid
      exact hnone id j hcarries hparse trivial
    have hsubmit : c.submit e s = _ := hcall
    simp only [next, hsubmit, account, hid, hforeseen, if_true]

private theorem next_of_not_writable (c : Connection σ) (report : Submission) (he : ¬ e.Writable)
    (s : σ) : next c report e s = (.error (.unbounded (.tooManyDigits none)), s) := by
  have hsubmit : c.submit e s = (.error (.unbounded (.tooManyDigits none)), s) :=
    Asking.call_of_not_demand (a := .submit e) (Demand.submit_of_not_writable he) c s
  rw [next, hsubmit]
  rfl

/-- By induction on the elements: each is sent, whatever has come of those before it, up to the first
that cannot be written. -/
theorem oneByOne_eq (c : Connection σ) (report : Submission) (es : List Element) (s : σ) :
    let (os, s') := c.sendAll ((es.takeWhile fun e => decide e.Writable).map fun e =>
      (Demand.taking e.loose.toJson).request c.address) s
    oneByOne c report es s = (if ∀ e ∈ es, e.Writable then .ok (os.foldl account report)
      else .error (.unbounded (.tooManyDigits none)), s') := by
  induction es generalizing report s with
  | nil => rfl
  | cons e es ih =>
    by_cases he : e.Writable
    · rw [List.takeWhile_cons_of_pos (by simpa using he)]
      simp only [oneByOne, next_eq c report he s, List.forall_mem_cons, he, true_and]
      exact ih _ _
    · rw [List.takeWhile_cons_of_neg (by simpa using he)]
      simp only [oneByOne, next_of_not_writable c report he s, List.forall_mem_cons, he, false_and]
      rfl

/-- A report accounts for requests that have been sent, one for each element. -/
structure AccountsFor (report : Submission) (os : List Outcome) : Prop where
  total : report.indexed + report.failed = os.length
  length : report.ids.length = report.indexed
  ids : report.ids = os.filterMap Outcome.id?

private theorem AccountsFor.account {os : List Outcome} (h : report.AccountsFor os) (o : Outcome) :
    (report.account o).AccountsFor (os ++ [o]) := by
  obtain ⟨htotal, hlength, hids⟩ := h
  unfold Submission.account
  cases hid : o.id? with
  | some id =>
    refine ⟨?_, ?_, ?_⟩
    · simp only [List.length_append, List.length_singleton]
      omega
    · simp [hlength]
    · simp [hids, hid]
  | none =>
    refine ⟨?_, hlength, ?_⟩
    · simp only [List.length_append, List.length_singleton]
      omega
    · simp [hids, hid]

private theorem AccountsFor.accounts {done : List Outcome} (h : report.AccountsFor done)
    (os : List Outcome) : (os.foldl Submission.account report).AccountsFor (done ++ os) := by
  induction os generalizing report done with
  | nil =>
    rw [List.append_nil]
    exact h
  | cons o os ih =>
    have hrest := ih (h.account o)
    rwa [List.append_assoc, List.singleton_append] at hrest

private theorem accountsFor_nil : AccountsFor {} [] :=
  ⟨rfl, rfl, rfl⟩

/-- The report on elements that are submitted in one request: all are accepted, or all fail. -/
def accountAll (n : Nat) (o : Outcome) : Submission :=
  match o.ids? n with
  | some ids => { indexed := ids.length, ids }
  | none => { failed := n }

private theorem together_eq (c : Connection σ) (hes : ∀ e ∈ es, e.Writable) (s : σ) :
    let (o, s') := c.send
      ((Demand.takingAll (es.map fun e => e.loose.toJson)).request c.address) s
    together c es s = (.ok (accountAll es.length o), s') := by
  have hdemand : (Asking.submitAll es).demand = .ok (.takingAll (es.map fun e => e.loose.toJson)) :=
    Demand.submitAll_of_writable hes
  obtain ⟨ids, j, hcarries, hparse, hfits, hcall⟩ | ⟨f, hnone, hforeseen, hcall⟩ :=
    Asking.call_cases hdemand (fun _ => id) c s
  · have hids := (Outcome.ids?_eq_some_iff es).mpr ⟨j, hcarries, hparse, hfits⟩
    have hsubmit : c.submitAll es s = _ := hcall
    simp only [together, hsubmit, accountAll, hids]
  · have hids : (c.send ((Demand.takingAll (es.map fun e => e.loose.toJson)).request
        c.address) s).1.ids? es.length = none := by
      refine Option.eq_none_iff_forall_ne_some.mpr fun ids hids => ?_
      obtain ⟨j, hcarries, hparse, hfits⟩ := (Outcome.ids?_eq_some_iff es).mp hids
      exact hnone ids j hcarries hparse hfits
    have hsubmit : c.submitAll es s = _ := hcall
    simp only [together, hsubmit, accountAll, hids, hforeseen, if_true]

private theorem together_of_not_writable (c : Connection σ) (he : e ∈ es) (hlong : ¬ e.Writable)
    (s : σ) : together c es s = (.error (.unbounded (.tooManyDigits none)), s) := by
  have hsubmit : c.submitAll es s = (.error (.unbounded (.tooManyDigits none)), s) :=
    Asking.call_of_not_demand (a := .submitAll es) (Demand.submitAll_of_mem he hlong) c s
  rw [together, hsubmit]
  rfl

/-- What a submission sends: a request for each element up to the first that cannot be written, or one
for all elements if all of them can be. -/
def requests (address : String) (batch : Bool) (es : List Element) : List Request :=
  if es.isEmpty then []
  else if batch then
    if ∀ e ∈ es, e.Writable then
      [(Demand.takingAll (es.map fun e => e.loose.toJson)).request address]
    else []
  else (es.takeWhile fun e => decide e.Writable).map fun e =>
    (Demand.taking e.loose.toJson).request address

/-- The report of a submission, by what comes of its requests. -/
def reportOn (batch : Bool) (n : Nat) (os : List Outcome) : Submission :=
  if batch then os.foldl (fun _ o => accountAll n o) {} else os.foldl account {}

theorem run_eq (c : Connection σ) (batch : Bool) (es : List Element) (s : σ) :
    let (os, s') := c.sendAll (requests c.address batch es) s
    run c batch es s = (if ∀ e ∈ es, e.Writable then .ok (reportOn batch es.length os)
      else .error (.unbounded (.tooManyDigits none)), s') := by
  unfold run requests reportOn
  cases es with
  | nil => cases batch <;> rfl
  | cons e es =>
    rw [List.isEmpty_cons, if_neg Bool.false_ne_true, if_neg Bool.false_ne_true]
    cases batch with
    | false => exact oneByOne_eq c {} (e :: es) s
    | true =>
      by_cases hes : ∀ e' ∈ e :: es, e'.Writable
      · simp only [if_true, if_pos hes]
        exact together_eq c hes s
      · obtain ⟨e', he', hlong⟩ : ∃ e' ∈ e :: es, ¬ e'.Writable := by
          simpa only [not_forall, exists_prop] using hes
        simp only [if_true, if_neg hes]
        exact together_of_not_writable c he' hlong s

theorem method_of_mem_requests {address : String} {batch : Bool} {r : Request}
    (hr : r ∈ requests address batch es) : r.method = .post := by
  unfold requests at hr
  split at hr
  · cases hr
  · split at hr
    · split at hr
      · rw [List.mem_singleton.mp hr]
        rfl
      · cases hr
    · obtain ⟨e, -, rfl⟩ := List.mem_map.mp hr
      rfl

private theorem length_requests (address : String) (hes : ∀ e ∈ es, e.Writable) :
    (requests address false es).length = es.length := by
  have hall : es.takeWhile (fun e => decide e.Writable) = es :=
    List.takeWhile_eq_self_iff.mpr fun e he => by simpa using hes e he
  cases es with
  | nil => rfl
  | cons e es => simp [requests, hall]

private theorem accountAll_cases (n : Nat) (o : Outcome) :
    (∃ ids, o.ids? n = some ids ∧ ids.length = n ∧ accountAll n o = ⟨n, 0, ids⟩) ∨
      o.ids? n = none ∧ accountAll n o = ⟨0, n, []⟩ := by
  unfold accountAll
  cases hids : o.ids? n with
  | none => exact .inr ⟨rfl, rfl⟩
  | some ids =>
    obtain ⟨-, hlength⟩ := Option.filter_eq_some_iff.mp hids
    have hlength : ids.length = n := by simpa using hlength
    exact .inl ⟨ids, rfl, hlength, by simp [hlength]⟩

/-- A submission of elements that can all be written never fails. It sends a request for each element
in their order, whatever comes of those before, or one for all if there are any, and accounts for every
element: each has been accepted with an id, or has failed. In one request, they all have been accepted
or all have failed. A submission with an element that cannot be written fails when it comes to that
element, or in one request before anything is sent, and then there is no report. -/
theorem run_accounts (c : Connection σ) (batch : Bool) (es : List Element) (s : σ) :
    let sent := c.sendAll (requests c.address batch es) s
    ((∀ e ∈ es, e.Writable) →
      ∃ report, run c batch es s = (.ok report, sent.2) ∧
        report.indexed + report.failed = es.length ∧ report.ids.length = report.indexed ∧
        (batch = false → sent.1.length = es.length ∧ report.ids = sent.1.filterMap Outcome.id?) ∧
        (batch = true → es ≠ [] → ∃ o, sent.1 = [o] ∧
          (o.ids? es.length = some report.ids ∧ report.indexed = es.length ∧ report.failed = 0 ∨
            o.ids? es.length = none ∧ report.indexed = 0 ∧ report.failed = es.length ∧
              report.ids = []))) ∧
      ((∃ e ∈ es, ¬ e.Writable) →
        run c batch es s = (.error (.unbounded (.tooManyDigits none)), sent.2)) := by
  intro sent
  have hrun := run_eq c batch es s
  refine ⟨fun hes => ?_, fun ⟨e, he, hlong⟩ => hrun.trans ?_⟩
  case refine_2 => rw [if_neg fun hes => hlong (hes e he)]
  refine ⟨reportOn batch es.length sent.1, hrun.trans (by rw [if_pos hes]), ?_⟩
  cases batch with
  | false =>
    have hcount : sent.1.length = es.length :=
      (c.length_sendAll _ s).trans (length_requests c.address hes)
    obtain ⟨htotal, hids, hnames⟩ := accountsFor_nil.accounts sent.1
    exact ⟨htotal.trans hcount, hids, fun _ => ⟨hcount, hnames⟩, nofun⟩
  | true =>
    cases es with
    | nil => exact ⟨rfl, rfl, nofun, fun _ hes => absurd rfl hes⟩
    | cons e es =>
      let body := (e :: es).map fun e => e.loose.toJson
      let o := (c.send ((Demand.takingAll body).request c.address) s).1
      have hrequests : requests c.address true (e :: es) =
          [(Demand.takingAll body).request c.address] := if_pos hes
      have hsent : sent.1 = [o] := congrArg (fun rs => (c.sendAll rs s).1) hrequests
      have hreport : reportOn true (e :: es).length sent.1 = accountAll (e :: es).length o := by
        rw [hsent]
        rfl
      rw [hreport]
      obtain ⟨ids, hids, hlength, hall⟩ | ⟨hids, hnone⟩ := accountAll_cases (e :: es).length o
      · rw [hall]
        exact ⟨rfl, hlength, nofun, fun _ _ => ⟨o, hsent, .inl ⟨hids, rfl, rfl⟩⟩⟩
      · rw [hnone]
        exact ⟨Nat.zero_add _, rfl, nofun, fun _ _ => ⟨o, hsent, .inr ⟨hids, rfl, rfl, rfl⟩⟩⟩

section Examples

/-- A server that keeps what it is sent, cannot be reached at first and accepts all later. -/
private def lateServer : Connection (List Request) where
  address := "http://h"
  send r sent :=
    (if sent.isEmpty then .unreachable "gone" else .reply 200 (.json (.obj [("id", .int 7)])),
      sent ++ [r])

private def elementNamed (name : String) : Element :=
  ⟨{ filePath := "a.js", lineNumber := 1, elementName := name }, name⟩

/-- The second element is sent although the first has failed. -/
theorem run_accounts_late :
    let es := [elementNamed "f", elementNamed "g"]
    (∀ e ∈ es, e.Writable) ∧ run lateServer false es [] = (.ok ⟨1, 1, ["7"]⟩,
      es.map fun e => (Demand.taking e.loose.toJson).request "http://h") := by
  intro es
  have hes : ∀ e ∈ es, e.Writable := by decide
  obtain ⟨report, hrun, htotal, hlength, hids, -⟩ := (run_accounts lateServer false es []).1 hes
  have hnames : report.ids = ["7"] := (hids rfl).2.trans (by decide +kernel)
  obtain ⟨indexed, failed, ids⟩ := report
  obtain rfl : ids = ["7"] := hnames
  obtain rfl : 1 = indexed := hlength
  obtain rfl : failed = 1 := by
    have hes : es.length = 2 := rfl
    have : 1 + failed = es.length := htotal
    omega
  refine ⟨hes, ?_⟩
  rw [hrun]
  rfl

/-- An element on a line that cannot be written makes the submission fail, and the element after it is
not sent. -/
theorem run_unaccounted_long :
    let long : Element :=
      ⟨{ filePath := "a.js", lineNumber := 10 ^ Numeral.maxDigits, elementName := "f" }, "f"⟩
    (run lateServer true [long] [] = (.error (.unbounded (.tooManyDigits none)), [])) ∧
      run lateServer false [elementNamed "f", long, elementNamed "g"] [] =
        (.error (.unbounded (.tooManyDigits none)),
          [(Demand.taking (elementNamed "f").loose.toJson).request "http://h"]) := by
  intro long
  have hlong : ¬ long.Writable := Numeral.not_isShort_pow
  refine ⟨together_of_not_writable lateServer (.head _) hlong [], ?_⟩
  have hfirst : (elementNamed "f").Writable := by decide
  have hrun := oneByOne_eq lateServer {} [elementNamed "f", long, elementNamed "g"] []
  rw [List.takeWhile_cons_of_pos (by simpa using hfirst),
    List.takeWhile_cons_of_neg (by simpa using hlong)] at hrun
  refine hrun.trans ?_
  rw [if_neg fun hall => hlong (hall long (by simp))]
  rfl

end Examples

end Submission

end CodeTwins
