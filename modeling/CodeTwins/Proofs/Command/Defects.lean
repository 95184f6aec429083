import CodeTwins.Proofs.Client.Account
import CodeTwins.Proofs.Command.Similar

/-!
# What commands do not foresee

A command ends in a defect for what it is given, or because of a reply in which a number is beyond all
bounds or an element that is shown has something else for a text. No other reply makes a command end
so.
-/
namespace CodeTwins

open Client

namespace Asking

variable {β : Type}

/-- An element is among those in an answer that a command shows. -/
def Shows : Asking β → β → Element Json → Prop
  | findPairs _ _, pairs, e => ∃ p ∈ pairs, e = p.first ∨ e = p.second
  | search _ _ _, results, e => ∃ r ∈ results, e = r.element
  | _, _, _ => False

private theorem eq_tooManyDigits_of_intText {n : Int} {m : Misfit} (h : Json.intText n = .error m) :
    m = .tooManyDigits none := by
  unfold Json.intText at h
  split at h <;> cases h
  rfl

private theorem eq_tooManyDigits_of_within {d : Demand} {threshold : Number} {limit : Int}
    {m : Misfit} (h : d.within threshold limit = .error m) : m = .tooManyDigits none := by
  have hfields := map_eq_error_iff.mp h
  cases hthreshold : Demand.numberText threshold with
  | error m' =>
    rw [Demand.boundFields, hthreshold] at hfields
    cases hfields
    cases threshold with
    | whole n => exact eq_tooManyDigits_of_intText hthreshold
    | real x => cases hthreshold
  | ok text =>
    rw [Demand.boundFields, hthreshold, ok_bind] at hfields
    cases hlimit : Json.intText limit with
    | error m' =>
      rw [hlimit] at hfields
      cases hfields
      exact eq_tooManyDigits_of_intText hlimit
    | ok text' =>
      rw [hlimit] at hfields
      cases hfields

private theorem eq_tooManyDigits_of_demand {a : Asking β} {m : Misfit} (h : a.demand = .error m) :
    m = .tooManyDigits none := by
  cases a with
  | submit e => exact (Element.encode_eq_error_iff.mp (map_eq_error_iff.mp h)).2
  | submitAll es => exact (Element.mapM_encode_eq_error_iff.mp (map_eq_error_iff.mp h)).2
  | wipe | checkHealth => cases h
  | findSimilar id threshold limit => exact eq_tooManyDigits_of_within h
  | findPairs threshold limit => exact eq_tooManyDigits_of_within h
  | search text threshold limit => exact eq_tooManyDigits_of_within h

end Asking

namespace Command

variable {σ α β : Type}

/-- A defect that comes of what a command is given: its configuration, the address in it, a pattern,
an ignore file, or a number with too many digits to be sent, which is a bound or the line of an element
of a source file. -/
inductive OfGiven (w : Surroundings σ) : Defect → Prop where
  | config {tree : Files.Node} {place : Files.Path} {o : ScanConfig.Overrides}
      {u : ScanConfig.Unresolved} {d : Defect}
      (hresolve : ScanConfig.resolve w.registry tree place o = .error u)
      (hstop : unresolvedStop u = .defect d) : OfGiven w d
  | address (kind : String) : OfGiven w (.misfit (.noFields kind "endswith"))
  | pattern (b : BadPattern) : OfGiven w (.pattern b)
  | text (m : Utf8.Malformed) : OfGiven w (.text m)
  | digits : OfGiven w (.misfit (.tooManyDigits none))

/-- A defect that comes of a reply. -/
inductive OfReply (w : Surroundings σ) : Defect → Prop where
  | number {β : Type} {a : Asking β} {d : Demand} {address : String} {server : σ} {j : Json}
      {m : Misfit} (hdemand : a.demand = .ok d)
      (hcarries : (w.send (d.request address) server).1.Carries j) (hbounds : a.BeyondBounds j)
      (hparse : a.parse j = .error m) : OfReply w (.misfit m)
  | text {β : Type} {a : Asking β} {d : Demand} {address : String} {server : σ} {j : Json} {b : β}
      {e : Element Json} (hdemand : a.demand = .ok d)
      (hcarries : (w.send (d.request address) server).1.Carries j) (hparse : a.parse j = .ok b)
      (hshown : a.Shows b e) (htext : ∀ t, e.text ≠ .str t) :
      OfReply w (.misfit (.noFields e.text.kind "split"))

/-- What an action does not foresee has some property. -/
def Unforeseen (P : Defect → Prop) (m : Act σ α) : Prop :=
  ∀ s d s', m.run s = (.error (.defect d), s') → P d

namespace Unforeseen

variable {P Q : Defect → Prop} {m : Act σ α} {f : α → Act σ β}

private theorem mono (hPQ : ∀ d, P d → Q d) (hm : Unforeseen P m) : Unforeseen Q m :=
  fun s d s' h => hPQ d (hm s d s' h)

/-- What follows may depend on what has been returned. -/
theorem bind_of_run (hm : Unforeseen P m)
    (hf : ∀ a s s', m.run s = (.ok a, s') → Unforeseen P (f a)) : Unforeseen P (m >>= f) := by
  intro s d s' h
  rw [run_bind] at h
  rcases hrun : m.run s with ⟨stop | a, s₁⟩ <;> rw [hrun] at h
  · cases h
    exact hm s d s' hrun
  · exact hf a s s₁ hrun s₁ d s' h

private theorem bind (hm : Unforeseen P m) (hf : ∀ a, Unforeseen P (f a)) : Unforeseen P (m >>= f) :=
  hm.bind_of_run fun a _ _ _ => hf a

private theorem get_bind {f : Shell σ → Act σ β} (hf : ∀ s, Unforeseen P (f s)) :
    Unforeseen P (get >>= f) := by
  intro s d s' h
  rw [run_bind_of_ok (run_get s)] at h
  exact hf s s d s' h

private theorem of_pure (a : α) : Unforeseen P (pure a : Act σ α) :=
  nofun

private theorem of_throw {stop : Stop} (h : ∀ d, stop = .defect d → P d) :
    Unforeseen P (throw stop : Act σ α) := by
  intro s d s' hrun
  cases hrun
  exact h d rfl

private theorem of_fail_bind (message : String) (f : α → Act σ β) :
    Unforeseen P (fail message >>= f) :=
  nofun

private theorem of_say (line : String) : Unforeseen P (say line : Act σ Unit) :=
  nofun

private theorem of_complain (line : String) : Unforeseen P (complain line : Act σ Unit) :=
  nofun

private theorem of_modify (g : Shell σ → Shell σ) : Unforeseen P (modify g : Act σ Unit) :=
  nofun

private theorem of_orStop {ε : Type} {stop : ε → Stop} {x : Except ε α}
    (h : ∀ e d, x = .error e → stop e = .defect d → P d) :
    Unforeseen P (orStop stop x : Act σ α) := by
  cases x with
  | ok a => exact of_pure a
  | error e => exact of_throw fun d => h e d rfl

private theorem foldlM {f : β → α → Act σ β} (hf : ∀ b a, Unforeseen P (f b a)) (l : List α) (b : β) :
    Unforeseen P (l.foldlM f b) := by
  induction l generalizing b with
  | nil => exact of_pure b
  | cons a l ih =>
    rw [List.foldlM_cons]
    exact (hf b a).bind ih

private theorem tryCatch (hm : Unforeseen P m) {f : Stop → Act σ α}
    (hf : ∀ stop, (∀ d, stop = .defect d → P d) → Unforeseen P (f stop)) :
    Unforeseen P (tryCatch m f) := by
  intro s d s' h
  rw [run_tryCatch] at h
  rcases hrun : m.run s with ⟨stop | a, s₁⟩ <;> rw [hrun] at h
  · refine hf stop (fun d' hd' => hm s d' s₁ ?_) s₁ d s' h
    rw [hrun, hd']
  · cases h

end Unforeseen

/-- A defect that comes of what a command is given, or of a reply. -/
def Explained (w : Surroundings σ) (d : Defect) : Prop :=
  OfGiven w d ∨ OfReply w d

variable {w : Surroundings σ}

private theorem unforeseen_configOf (w : Surroundings σ) (place : Files.Path)
    (o : ScanConfig.Overrides) : Unforeseen (Explained w) (w.configOf place o) :=
  .get_bind fun _ => .of_orStop fun _ _ hresolve hstop => .inl (.config hresolve hstop)

private theorem unforeseen_connect (w : Surroundings σ) (v : Toml.Value) :
    Unforeseen (Explained w) (w.connect v) := by
  unfold Surroundings.connect
  split
  · exact .of_pure _
  · split
    · refine .of_throw fun d hd => ?_
      cases hd
      exact .inl (.address _)
    · exact .of_pure _

/-- A connection leads to the server that there is. -/
theorem unforeseen_connect_bind {v : Toml.Value} {f : Connection (Shell σ) → Act σ β}
    (hf : ∀ address, Unforeseen (Explained w) (f ⟨address, w.transport⟩)) :
    Unforeseen (Explained w) (w.connect v >>= f) := by
  refine (unforeseen_connect w v).bind_of_run fun c s s' hrun => ?_
  obtain ⟨address, hok⟩ | ⟨stop, herror⟩ := connect_run w v s
  · cases hok.symm.trans hrun
    exact hf address
  · cases herror.symm.trans hrun

section Asking

variable {address : String}

private theorem clientStop_eq_defect_iff {f : Client.Failure} {d : Defect} :
    clientStop f = .defect d ↔ ∃ m, f = .unbounded m ∧ d = .misfit m := by
  cases f <;> simp [clientStop, eq_comm]

private theorem unforeseen_ask (a : Asking α) :
    Unforeseen (Explained w) (ask (a.call ⟨address, w.transport⟩)) := by
  intro s d s' h
  rw [run_ask] at h
  obtain ⟨f, hf, hstop⟩ := mapError_eq_error_iff.mp (congrArg Prod.fst h)
  obtain ⟨m, rfl, rfl⟩ := clientStop_eq_defect_iff.mp hstop
  cases hdemand : a.demand with
  | error m' =>
    rw [Asking.call_of_not_demand hdemand] at hf
    cases hf
    rw [Asking.eq_tooManyDigits_of_demand hdemand]
    exact .inl .digits
  | ok d =>
    obtain ⟨j, hcarries, hparse, hunbounded⟩ := (Asking.call_eq_unbounded_iff hdemand).mp hf
    have hbounds := (a.overflows_parse_iff j).mp ⟨m, hparse, hunbounded⟩
    exact .inr (.number hdemand hcarries hbounds hparse)

/-- Whatever a command shows of an answer, it does not foresee that an element has no text there. -/
theorem unforeseen_ask_bind {a : Asking α} {f : α → Act σ β}
    (hf : ∀ b, Unforeseen (fun d => ∃ e, a.Shows b e ∧ (∀ t, e.text ≠ .str t) ∧
      d = .misfit (.noFields e.text.kind "split")) (f b)) :
    Unforeseen (Explained w) (ask (a.call ⟨address, w.transport⟩) >>= f) := by
  refine (unforeseen_ask a).bind_of_run fun b s s' hrun => (hf b).mono ?_
  rintro d ⟨e, hshown, htext, rfl⟩
  rw [run_ask] at hrun
  have hok := mapError_eq_ok_iff.mp (congrArg Prod.fst hrun)
  cases hdemand : a.demand with
  | error m =>
    rw [Asking.call_of_not_demand hdemand] at hok
    cases hok
  | ok d =>
    obtain ⟨j, hcarries, hparse, -⟩ := (Asking.call_eq_ok_iff hdemand).mp hok
    exact .inr (.text hdemand hcarries hparse hshown htext)

/-- The submission of elements ends early only because of an element that cannot be written. -/
theorem unforeseen_submission (c : Connection (Shell σ)) (batch : Bool) (es : List Element) :
    Unforeseen (Explained w) (ask (Submission.run c batch es)) := by
  intro s d s' h
  rw [run_ask, Submission.run_eq] at h
  split at h <;> cases h
  exact .inl .digits

end Asking

section Reports

variable {P : Defect → Prop}

private theorem unforeseen_textOf {e : Element Json}
    (h : (∀ t, e.text ≠ .str t) → P (.misfit (.noFields e.text.kind "split"))) :
    Unforeseen P (textOf e : Act σ String) := by
  unfold textOf
  split
  case h_1 => exact .of_pure _
  case h_2 hne =>
    refine .of_throw fun d hd => ?_
    cases hd
    exact h hne

private theorem unforeseen_sayAll {tell : Nat → α → Act σ Unit} {l : List α}
    (h : ∀ b ∈ l, ∀ n, Unforeseen P (tell n b)) (n : Nat) : Unforeseen P (sayAll tell n l) := by
  induction l generalizing n with
  | nil => exact .of_pure ()
  | cons b l ih =>
    obtain ⟨hfirst, hrest⟩ := List.forall_mem_cons.mp h
    exact (hfirst n).bind fun _ => ih hrest (n + 1)

private theorem unforeseen_sayPair {p : SimilarPair Json}
    (hfirst : (∀ t, p.first.text ≠ .str t) → P (.misfit (.noFields p.first.text.kind "split")))
    (hsecond : (∀ t, p.second.text ≠ .str t) → P (.misfit (.noFields p.second.text.kind "split")))
    (n : Nat) : Unforeseen P (sayPair n p : Act σ Unit) := by
  unfold sayPair
  refine (Unforeseen.of_say _).bind fun _ => (Unforeseen.of_say _).bind fun _ => ?_
  refine (Unforeseen.of_say _).bind fun _ => (Unforeseen.of_say _).bind fun _ => ?_
  refine (Unforeseen.of_say _).bind fun _ => (unforeseen_textOf hfirst).bind fun _ => ?_
  refine (Unforeseen.of_say _).bind fun _ => (Unforeseen.of_say _).bind fun _ => ?_
  exact (unforeseen_textOf hsecond).bind fun _ => .of_say _

private theorem unforeseen_sayResult {r : SearchResult Json}
    (h : (∀ t, r.element.text ≠ .str t) → P (.misfit (.noFields r.element.text.kind "split")))
    (n : Nat) : Unforeseen P (sayResult n r : Act σ Unit) := by
  unfold sayResult
  refine (Unforeseen.of_say _).bind fun _ => (Unforeseen.of_say _).bind fun _ => ?_
  refine (Unforeseen.of_say _).bind fun _ => ?_
  exact (unforeseen_textOf h).bind fun _ => .of_say _

private theorem unforeseen_checkExceeded (count : Nat) (limit : Int) (action : Toml.Value) :
    Unforeseen P (checkExceeded count limit action : Act σ Unit) := by
  unfold checkExceeded
  split
  · refine (Unforeseen.of_complain _).bind fun _ => ?_
    split
    · exact (Unforeseen.of_complain _).bind fun _ => .of_throw nofun
    · exact .of_pure ()
  · exact .of_pure ()

end Reports

section Commands

variable (w)

private theorem unforeseen_intText {n : Int} :
    Unforeseen (Explained w)
      (orStop (fun m => .defect (.misfit m)) (Json.intText n) : Act σ String) := by
  refine .of_orStop fun m d hm hd => ?_
  cases hd
  rw [Asking.eq_tooManyDigits_of_intText hm]
  exact .inl .digits

private theorem unforeseen_similar (threshold : Option Float) (limit : Option Int)
    (onExceed url : Option String) :
    Unforeseen (Explained w) (w.similar threshold limit onExceed url) := by
  unfold Surroundings.similar
  refine (unforeseen_configOf w _ _).bind fun config => ?_
  refine unforeseen_connect_bind fun address => ?_
  refine (Unforeseen.of_say _).bind fun _ => (unforeseen_intText w).bind fun _ => ?_
  refine (Unforeseen.of_say _).bind fun _ => ?_
  refine unforeseen_ask_bind (a := .findPairs config.threshold (config.limit + 1)) fun pairs => ?_
  unfold sayPairs
  split
  · exact .of_say _
  · refine (Unforeseen.of_say _).bind fun _ => ?_
    refine (unforeseen_sayAll (fun p hp n => ?_) 1).bind fun _ =>
      unforeseen_checkExceeded _ _ _
    have hmem := List.mem_of_mem_take hp
    exact unforeseen_sayPair (fun htext => ⟨p.first, ⟨p, hmem, .inl rfl⟩, htext, rfl⟩)
      (fun htext => ⟨p.second, ⟨p, hmem, .inr rfl⟩, htext, rfl⟩) n

private theorem unforeseen_search (words : List String) (threshold : Float) (limit : Option Int)
    (url : Option String) : Unforeseen (Explained w) (w.search words threshold limit url) := by
  unfold Surroundings.search
  refine (unforeseen_configOf w _ _).bind fun config => ?_
  refine unforeseen_connect_bind fun address => ?_
  refine (Unforeseen.of_say _).bind fun _ => (unforeseen_intText w).bind fun _ => ?_
  refine (Unforeseen.of_say _).bind fun _ => ?_
  refine unforeseen_ask_bind (a := .search (String.intercalate " " words) (.real threshold)
    config.limit) fun results => ?_
  unfold sayResults
  split
  · exact .of_say _
  · refine (Unforeseen.of_say _).bind fun _ => unforeseen_sayAll (fun r hr n => ?_) 1
    exact unforeseen_sayResult (fun htext => ⟨r.element, ⟨r, hr, rfl⟩, htext, rfl⟩) n

private theorem unforeseen_wipe (url : Option String) : Unforeseen (Explained w) (w.wipe url) := by
  unfold Surroundings.wipe
  refine (unforeseen_configOf w _ _).bind fun config => ?_
  refine unforeseen_connect_bind fun address => ?_
  exact (unforeseen_ask .wipe).bind fun _ => .of_say _

private theorem unforeseen_discover (path ignoreFiles : String) :
    Unforeseen (Explained w) (w.discover path ignoreFiles) := by
  refine .get_bind fun s => ?_
  dsimp only
  split
  · exact .of_fail_bind _ _
  · split
    · exact .of_fail_bind _ _
    · refine (Unforeseen.of_orStop fun m d _ hd => ?_).bind fun _ =>
        (Unforeseen.of_say _).bind fun _ => .of_say _
      cases hd
      exact .inl (.text m)

private theorem unforeseen_serve (level : Option LogLevel) (host : Option String)
    (port : Option Int) : Unforeseen (Explained w) (w.serve level host port) := by
  unfold Surroundings.serve
  refine (Unforeseen.of_orStop fun _ _ _ => nofun).bind fun settings => ?_
  exact (Unforeseen.of_modify _).bind fun _ => .of_modify _

end Commands

section Scans

variable (w) (r : ScanRequest)

private theorem unforeseen_writeConfig (path : Files.Path) (extensions : List String) :
    Unforeseen (Explained w) (w.writeConfig path extensions) := by
  refine .get_bind fun s => ?_
  refine (Unforeseen.of_orStop fun _ _ _ => nofun).bind fun tree => ?_
  exact (Unforeseen.of_modify _).bind fun _ => .of_say _

private theorem unforeseen_confirm (question : String) :
    Unforeseen (Explained w) (confirm question : Act σ Bool) := by
  refine .get_bind fun s => ?_
  rcases answerFrom (question ++ " [y/N]:") s.input with ⟨answer | answer, shown, input⟩
  · exact (Unforeseen.of_modify _).bind fun _ => .of_throw nofun
  · exact (Unforeseen.of_modify _).bind fun _ => .of_pure _

private theorem unforeseen_makeConfig (root : Files.Path) :
    Unforeseen (Explained w) (w.makeConfig root) := by
  refine .get_bind fun s => ?_
  dsimp only
  split
  · exact .of_say _
  · split
    · refine (Unforeseen.get_bind fun _ => .of_pure _).bind fun found => ?_
      split <;> exact (Unforeseen.of_say _).bind fun _ => unforeseen_writeConfig w _ _
    · exact .of_pure ()

private theorem unforeseen_offerConfig (root : Files.Path) :
    Unforeseen (Explained w) (w.offerConfig root) := by
  refine .get_bind fun s => ?_
  dsimp only
  split
  · refine (Unforeseen.get_bind fun _ => .of_pure _).bind fun found => ?_
    split
    · refine (Unforeseen.of_say _).bind fun _ => (unforeseen_confirm w _).bind fun wanted => ?_
      split
      · exact unforeseen_writeConfig w _ _
      · exact .of_pure ()
    · exact .of_pure ()
  · exact .of_pure ()

private theorem unforeseen_prepare (interactive : Bool) (root : Files.Path) :
    Unforeseen (Explained w) (w.prepare r interactive root) := by
  unfold Surroundings.prepare
  split
  · exact unforeseen_makeConfig w root
  · split
    · exact unforeseen_offerConfig w root
    · exact .of_pure ()

private theorem patternStop_explained {b : BadPattern} {d : Defect} (h : patternStop b = .defect d) :
    Explained w d := by
  unfold patternStop at h
  split at h <;> cases h
  · exact .inl (.pattern b)
  · exact .inl (.pattern b)

private theorem unforeseen_scopeOf (interactive : Bool) (root : Files.Path) :
    Unforeseen (Explained w) (w.scopeOf r interactive root) := by
  unfold Surroundings.scopeOf
  refine Unforeseen.bind ?_ fun _ => (unforeseen_prepare w r interactive root).bind fun _ => ?_
  · refine .get_bind fun s => ?_
    split
    · exact .of_pure ()
    · exact .of_throw nofun
  · refine Unforeseen.bind ?_ fun _ => (unforeseen_configOf w _ _).bind fun config => ?_
    · unfold checkPattern
      split
      · exact (Unforeseen.of_orStop fun b d _ hd => patternStop_explained w hd).bind fun _ =>
          .of_pure ()
      · exact .of_pure ()
    · refine .get_bind fun s => (Unforeseen.of_orStop fun m d _ hd => ?_).bind fun _ => .of_pure _
      cases hd
      exact .inl (.text m)

private theorem unforeseen_scanFile (scope : Scope) (c : Connection (Shell σ)) (tally : Tally)
    (path : Files.Path) : Unforeseen (Explained w) (w.scanFile scope c tally path) := by
  unfold Surroundings.scanFile
  refine (Unforeseen.of_say _).bind fun _ => Unforeseen.bind ?_ fun es => ?_
  · refine .get_bind fun s => ?_
    split
    · exact .of_pure _
    · exact .of_pure _
    · exact .of_throw fun d hd => patternStop_explained w hd
  · split
    · exact .of_pure _
    · refine (Unforeseen.of_say _).bind fun _ => ?_
      exact (unforeseen_submission c scope.batch es).bind fun _ => .of_pure _

private theorem unforeseen_scanFiles (scope : Scope) (c : Connection (Shell σ))
    (files : List Files.Path) : Unforeseen (Explained w) (w.scanFiles scope c files) := by
  unfold Surroundings.scanFiles
  split
  · exact .of_pure _
  · refine (Unforeseen.of_say _).bind fun _ => ?_
    refine (Unforeseen.foldlM (unforeseen_scanFile w scope c) files _).bind fun tally => ?_
    refine (Unforeseen.of_say _).bind fun _ => ?_
    dsimp only
    split
    · exact (Unforeseen.of_complain _).bind fun _ => .of_pure _
    · exact .of_pure _

variable {w} in
private theorem unforeseen_subScans {scan : Files.Path → Act σ Nat}
    (hscan : ∀ place, Unforeseen (Explained w) (scan place)) (places : List Files.Path) :
    Unforeseen (Explained w) (w.subScans scan places) := by
  unfold Surroundings.subScans
  split
  · exact .of_pure _
  · refine (Unforeseen.of_say _).bind fun _ => .foldlM (fun indexed place => ?_) places 0
    refine (Unforeseen.of_say _).bind fun _ => ?_
    refine ((hscan place).tryCatch fun stop hstop => .of_throw fun d hd => ?_).bind fun _ =>
      .of_pure _
    cases stop with
    | defect d' => exact hstop d hd
    | exit | failure | aborted => cases hd

variable {w} in
private theorem unforeseen_scanFrom (interactive : Bool) {scan : Files.Path → Act σ Nat}
    (hscan : ∀ place, Unforeseen (Explained w) (scan place)) (root : Files.Path) :
    Unforeseen (Explained w) (w.scanFrom r interactive scan root) := by
  unfold Surroundings.scanFrom
  refine (unforeseen_scopeOf w r interactive root).bind fun (scope, ignored) => ?_
  refine unforeseen_connect_bind fun address => (Unforeseen.of_say _).bind fun _ => ?_
  refine Unforeseen.bind ?_ fun _ => Unforeseen.bind ?_ fun plan => ?_
  · unfold wipeFirst
    split
    · exact (Unforeseen.of_say _).bind fun _ => (unforeseen_ask .wipe).bind fun _ => .of_say _
    · exact .of_say _
  · refine .get_bind fun s => ?_
    dsimp only
    split
    · exact .of_pure _
    · exact (Unforeseen.of_say _).bind fun _ => .of_pure _
  · unfold Surroundings.scanPlan
    split
    · exact (Unforeseen.of_say _).bind fun _ => .of_pure _
    · exact (unforeseen_scanFiles w scope _ plan.files).bind fun _ =>
        (unforeseen_subScans hscan plan.subScans).bind fun _ => .of_pure _

/-- By induction on the depth of scans within scans. -/
theorem unforeseen_scanWithin (depth : Nat) (place : Files.Path) :
    Unforeseen (Explained w) (w.scanWithin r depth place) := by
  induction depth generalizing place with
  | zero => exact .of_pure _
  | succ depth ih => exact unforeseen_scanFrom _ _ ih place

private theorem unforeseen_scan : Unforeseen (Explained w) (w.scan r) :=
  unforeseen_scanFrom r true (fun place => .get_bind fun _ => unforeseen_scanWithin w r _ place) _

end Scans

private theorem unforeseen_tellMisuse (name : Option Name) (m : Misuse) :
    Unforeseen (Explained w) (tellMisuse name m : Act σ Unit) := by
  unfold tellMisuse
  dsimp only
  split
  · refine (Unforeseen.of_complain _).bind fun _ => (Unforeseen.of_complain _).bind fun _ => ?_
    exact (Unforeseen.of_complain _).bind fun _ => .of_throw nofun
  · exact (Unforeseen.of_complain _).bind fun _ => .of_throw nofun

private theorem unforeseen_act (w : Surroundings σ) (line : Line) :
    Unforeseen (Explained w) (w.act line) := by
  cases line with
  | nothing => exact (Unforeseen.of_complain _).bind fun _ => .of_throw nofun
  | version => exact .of_say _
  | help => exact .of_say _
  | misuse m => exact unforeseen_tellMisuse none m
  | command level name asked =>
    refine Unforeseen.bind ?_ fun _ => ?_
    · unfold setUp
      split
      · exact .of_pure ()
      · exact .of_modify _
    · cases asked with
      | error m => exact unforeseen_tellMisuse (some name) m
      | ok asked =>
        cases asked with
        | help => exact .of_say _
        | instruction i =>
          cases i with
          | scan r => exact (unforeseen_scan w r).bind fun _ => .of_pure ()
          | discover path ignoreFiles => exact unforeseen_discover w path ignoreFiles
          | similar threshold limit onExceed url =>
            exact unforeseen_similar w threshold limit onExceed url
          | search words threshold limit url => exact unforeseen_search w words threshold limit url
          | wipe url => exact unforeseen_wipe w url
          | serve host port => exact unforeseen_serve w level host port

private theorem explained_of_run {words : List String} {s s' : Shell σ} {d : Defect}
    (h : w.run words s = (.defect d, s')) : Explained w d := by
  unfold Surroundings.run at h
  rcases hact : (w.act (Line.read words)).run s with ⟨stop | u, s₁⟩ <;> rw [hact] at h
  · cases stop with
    | defect d' =>
      cases h
      exact unforeseen_act w _ s d s' hact
    | exit | failure | aborted => cases h
  · cases h

/-- The answer to whatever a server is asked is read from a reply that reports success. Otherwise
there is a failure that is foreseen, unless the first number that cannot be taken of such a reply is
beyond all bounds, or a bound or a line has too many digits to be sent. A program that ends in a defect
does so for what it is given or because of such a number, or else because an element that it shows has
no text where there should be one. -/
theorem answered_or_explained (c : Connection σ) (a : Asking β) (s : σ) (w : Surroundings σ)
    (words : List String) (shell : Shell σ) :
    (∀ m, a.demand = .error m →
      m = .tooManyDigits none ∧ a.call c s = (.error (.unbounded m), s)) ∧
    (∀ d, a.demand = .ok d →
      let sent := c.send (d.request c.address) s
      (a.call c s).2 = sent.2 ∧
      (∀ b, (a.call c s).1 = .ok b ↔ ∃ j, sent.1.Carries j ∧ a.parse j = .ok b ∧ a.Fits b) ∧
      ((∃ f, (a.call c s).1 = .error f ∧ f.isForeseen = false) ↔
        ∃ j, sent.1.Carries j ∧ a.BeyondBounds j)) ∧
    ∀ d shell', w.run words shell = (.defect d, shell') → OfGiven w d ∨ OfReply w d := by
  refine ⟨fun m hdemand => ⟨Asking.eq_tooManyDigits_of_demand hdemand,
    Asking.call_of_not_demand hdemand c s⟩, fun d hdemand => ?_, fun d shell' => explained_of_run⟩
  exact ⟨congrArg Prod.snd (Asking.call_eq hdemand c s), fun b => Asking.call_eq_ok_iff hdemand,
    Asking.call_unforeseen_iff hdemand⟩

section Examples

private def answering (body : Content) : Transport Unit := fun _ _ =>
  (.reply 200 body, ())

private def besideServer (body : Content) : Surroundings Unit where
  directory := []
  send := answering body

private def emptyShell : Shell Unit where
  tree := .emptyDir
  server := ()

private def infinitelyMany : Content :=
  .text none "\x7b\"deletedCount\": Infinity\x7d"

private theorem run_wipe_infinitelyMany :
    ∃ shell', (besideServer infinitelyMany).run ["wipe"] emptyShell =
      (.defect (.misfit .infiniteInteger), shell') := by
  have husable : ((ScanConfig.default .builtIn).override {}).Usable :=
    ⟨by decide +kernel, by decide, "warn", by decide, rfl⟩
  have hconfig : ScanConfig.resolve (besideServer infinitelyMany).registry emptyShell.tree
      (besideServer infinitelyMany).directory {} = .ok ((ScanConfig.default .builtIn).override {}) :=
    ScanConfig.resolve_default rfl husable ScanConfig.isOk_patterns_builtIn
  let s : Shell Unit := emptyShell.logged (.level .warning)
  let c : Connection (Shell Unit) :=
    ⟨Client.addressOf (some "http://localhost:3000") [], (besideServer infinitelyMany).transport⟩
  have hcall : (c.wipe s).1 = .error (.unbounded .infiniteInteger) := by decide +kernel
  have hwipe : ((besideServer infinitelyMany).wipe none).run s =
      (.error (.defect (.misfit .infiniteInteger)), (c.wipe s).2) := by
    have hask : (ask c.wipe).run s =
        (.error (.defect (.misfit .infiniteInteger)), (c.wipe s).2) := by
      rw [run_ask, hcall]
      rfl
    have hconnect : ((besideServer infinitelyMany).connect (.str "http://localhost:3000")).run s =
        (.ok c, s) := rfl
    refine (run_bind_of_ok (run_configOf (s := s) hconfig)).trans ?_
    exact (run_bind_of_ok hconnect).trans (run_bind_of_error hask)
  have hread : Line.read ["wipe"] = .command none .wipe (.ok (.instruction (.wipe none))) := rfl
  refine ⟨(c.wipe s).2, ?_⟩
  unfold Surroundings.run
  rw [hread, run_command _ _ (by decide)]
  have hperform : ((besideServer infinitelyMany).perform none (.wipe none)).run
      (emptyShell.logged (.level (none.getD LogLevel.warning))) = _ := hwipe
  rw [hperform]
  rfl

/-- A number of deleted elements is told, and an infinite one comes of the reply. -/
theorem answered_or_explained_wipe :
    let body := .json (.obj [("deletedCount", .int 3)])
    Asking.wipe.demand = .ok .wipe ∧
      (Asking.wipe.call ⟨"http://h", answering body⟩ ()).1 = .ok 3 ∧
      (OfGiven (besideServer infinitelyMany) (.misfit .infiniteInteger) ∨
        OfReply (besideServer infinitelyMany) (.misfit .infiniteInteger)) := by
  intro body
  have hdemand : Asking.wipe.demand = .ok .wipe := rfl
  obtain ⟨shell', hrun⟩ := run_wipe_infinitelyMany
  have hspec := answered_or_explained ⟨"http://h", answering body⟩ .wipe ()
    (besideServer infinitelyMany) ["wipe"] emptyShell
  have hanswer := (hspec.2.1 _ hdemand).2.1 3
  refine ⟨hdemand, hanswer.mpr ?_, hspec.2.2 _ _ hrun⟩
  exact ⟨.obj [("deletedCount", .int 3)], .reply rfl rfl, rfl, trivial⟩

/-- An infinite number of deleted elements is foreseen neither by the client nor by the command. -/
theorem wipe_unforeseen :
    let failure := Client.Failure.unbounded .infiniteInteger
    (Asking.wipe.call ⟨"http://h", answering infinitelyMany⟩ ()).1 = .error failure ∧
      failure.isForeseen = false ∧
      ∃ shell', (besideServer infinitelyMany).run ["wipe"] emptyShell =
        (.defect (.misfit .infiniteInteger), shell') :=
  ⟨by decide +kernel, rfl, run_wipe_infinitelyMany⟩

end Examples

end Command

end CodeTwins
