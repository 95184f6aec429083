import CodeTwins.Proofs.Client.Account
import CodeTwins.Proofs.Command.Visits

/-!
# What a scan sends

A scan checks everything before its first request. Then it wipes, if it is to, and visits the files of
its plan and those of the scans within it.
-/
namespace CodeTwins.Command

open Files Scan

variable {σ : Type}

section Scope

/-- Nothing is sent, and no name is listed twice in a directory where none was. -/
structure Silent (s s' : Shell σ) : Prop where
  server : s'.server = s.server
  requests : s'.requests = s.requests
  names : s.tree.DistinctNames → s'.tree.DistinctNames

private theorem Silent.lasting : Lasting (Silent (σ := σ)) where
  same h := ⟨h.server, h.requests, fun htree => h.tree.symm ▸ htree⟩
  trans h h' := ⟨h'.server.trans h.server, h'.requests.trans h.requests, h'.names ∘ h.names⟩

variable (w : Surroundings σ) (r : ScanRequest) (interactive : Bool) (root : Path)

private theorem silent_writeConfig (path : Path) (extensions : List String) :
    Moves Silent (w.writeConfig path extensions) := by
  refine Moves.get_bind fun s => ?_
  cases hwrite : s.tree.write path (Utf8.encode (ScanConfig.starter w.registry extensions)) with
  | error f => exact Silent.lasting.same (Same.refl s)
  | ok tree => exact ⟨rfl, rfl, fun htree => htree.write hwrite⟩

private theorem same_detected : Moves Same (w.detected root) :=
  Moves.get_bind fun s => Same.refl s

private theorem silent_makeConfig : Moves Silent (w.makeConfig root) := by
  have hsay : ∀ line : String, Moves Silent (say line : Act σ Unit) :=
    fun line => (same_say line).of_same Silent.lasting
  refine Moves.get_bind fun s => ?_
  dsimp only
  split
  · exact hsay _ s
  · split
    · refine Moves.bind Silent.lasting ((same_detected w root).of_same Silent.lasting) ?_ s
      intro found
      split
      · exact Moves.bind Silent.lasting (hsay _) fun _ => silent_writeConfig w _ _
      · exact Moves.bind Silent.lasting (hsay _) fun _ => silent_writeConfig w _ _
    · exact Silent.lasting.same (Same.refl s)

private theorem silent_offerConfig : Moves Silent (w.offerConfig root) := by
  have hsame : ∀ {α : Type} {m : Act σ α}, Moves Same m → Moves Silent m :=
    fun hm => hm.of_same Silent.lasting
  refine Moves.get_bind fun s => ?_
  dsimp only
  split
  · refine Moves.bind Silent.lasting (hsame (same_detected w root)) ?_ s
    intro found
    split
    · refine Moves.bind Silent.lasting (hsame (same_say _)) fun _ => ?_
      refine Moves.bind Silent.lasting (hsame (same_confirm _)) fun wanted => ?_
      split
      · exact silent_writeConfig w _ _
      · exact hsame (same_pure ())
    · exact hsame (same_pure ())
  · exact Silent.lasting.same (Same.refl s)

private theorem silent_prepare : Moves Silent (w.prepare r interactive root) := by
  unfold Surroundings.prepare
  split
  · exact silent_makeConfig w root
  · split
    · exact silent_offerConfig w root
    · exact (same_pure ()).of_same Silent.lasting

private theorem same_checkPlace : Moves Same (checkPlace root : Act σ Unit) := by
  refine Moves.get_bind fun s => ?_
  split <;> exact Same.refl s

private theorem same_checkPattern : Moves Same (checkPattern r : Act σ Unit) := by
  unfold checkPattern
  split
  · exact Moves.bind Same.lasting (same_orStop _ _) fun _ => same_pure ()
  · exact same_pure ()

variable {w r interactive root}

/-- What a scan does before its first request keeps what making a configuration keeps. -/
theorem moves_scopeOf {R : Shell σ → Shell σ → Prop} (hR : Lasting R)
    (hprepare : Moves R (w.prepare r interactive root)) :
    Moves R (w.scopeOf r interactive root) := by
  refine Moves.bind hR ((same_checkPlace root).of_same hR) fun _ => ?_
  refine Moves.bind hR hprepare fun _ => Moves.of_same hR ?_
  refine Moves.bind Same.lasting (same_checkPattern r) fun _ => ?_
  refine Moves.bind Same.lasting (same_configOf w root _) fun config => ?_
  refine Moves.get_bind fun s => ?_
  exact Moves.bind Same.lasting (same_orStop _ _) (fun _ => same_pure _) s

private theorem existsAt_of_checkPlace {s s' : Shell σ} {u : Unit}
    (h : (checkPlace root : Act σ Unit).run s = (.ok u, s')) : s.tree.existsAt root = true := by
  rw [checkPlace, run_bind_of_ok (run_get s)] at h
  split at h
  case isTrue hexists => exact hexists
  case isFalse => cases h

private theorem compileAll_of_checkPattern {s s' : Shell σ} {u : Unit}
    (h : (checkPattern r : Act σ Unit).run s = (.ok u, s')) {p : String} (hp : r.regex = some p) :
    (SignaturePattern.compileAll [p]).isOk = true := by
  by_cases hempty : p = ""
  · rw [hempty]
    decide
  · have hfilter : r.regex.filter (!·.isEmpty) = some p := by simp [hp, hempty]
    rw [checkPattern, hfilter] at h
    obtain ⟨_, s₁, hcompile, -⟩ := ok_of_run_bind h
    rw [(run_orStop hcompile).1]
    rfl

private theorem resolve_of_configOf {place : Path} {o : ScanConfig.Overrides} {s s' : Shell σ}
    {config : ScanConfig} (h : (w.configOf place o).run s = (.ok config, s')) :
    ScanConfig.resolve w.registry s.tree place o = .ok config ∧ s' = s := by
  rw [Surroundings.configOf, run_bind_of_ok (run_get s)] at h
  exact run_orStop h

/-- All that has been checked when a scan has its scope. -/
structure Checked (w : Surroundings σ) (r : ScanRequest) (root : Path) (before after : Node)
    (scope : Scope) : Prop where
  found : before.existsAt root = true
  pattern : ∀ p, r.regex = some p → (SignaturePattern.compileAll [p]).isOk = true
  own : scope.Of w r after
  root : scope.root = root

theorem checked_of_scopeOf {s s' : Shell σ} {scope : Scope} {ignored : List String}
    (h : (w.scopeOf r interactive root).run s = (.ok (scope, ignored), s')) :
    Checked w r root s.tree s'.tree scope := by
  obtain ⟨_, s₁, hplace, h₁⟩ := ok_of_run_bind h
  obtain ⟨_, s₂, -, h₂⟩ := ok_of_run_bind h₁
  obtain ⟨_, s₃, hpattern, h₃⟩ := ok_of_run_bind h₂
  obtain ⟨config, s₄, hconfig, h₄⟩ := ok_of_run_bind h₃
  obtain ⟨hresolve, heq⟩ := resolve_of_configOf hconfig
  rw [heq, run_bind_of_ok (run_get s₃)] at h₄
  obtain ⟨_, s₅, hignored, h₅⟩ := ok_of_run_bind h₄
  obtain ⟨-, rfl⟩ := run_orStop hignored
  cases h₅
  exact ⟨existsAt_of_checkPlace hplace, fun p => compileAll_of_checkPattern hpattern,
    ⟨hresolve, rfl, rfl⟩, rfl⟩

end Scope

section Submission

variable {w : Surroundings σ} {address : String}

private theorem sendAll_run (rs : List Http.Request) (s : Shell σ) :
    let s' := ((Connection.mk address w.transport).sendAll rs s).2
    s'.tree = s.tree ∧ s'.requests = rs.reverse ++ s.requests := by
  induction rs generalizing s with
  | nil => exact ⟨rfl, rfl⟩
  | cons r rs ih =>
    obtain ⟨htree, hrequests⟩ := ih (w.transport r s).2
    refine ⟨htree, hrequests.trans ?_⟩
    rw [List.reverse_cons, List.append_assoc]
    rfl

/-- Submitting the elements of a visit sends its requests. -/
theorem submission_run (v : Visit) (s : Shell σ) :
    let s' := (Submission.run ⟨v.address, w.transport⟩ v.scope.batch v.elements s).2
    s'.tree = s.tree ∧ s'.requests = v.requests.reverse ++ s.requests := by
  have hrun := Submission.run_eq ⟨v.address, w.transport⟩ v.scope.batch v.elements s
  rw [hrun]
  exact sendAll_run _ s

end Submission

section Files

variable {w : Surroundings σ} {r : ScanRequest} {tree : Node} {scope : Scope} {address : String}

private theorem sends_submission (w : Surroundings σ) (tree : Node) (v : Visit) :
    Sends tree (· = [v])
      (ask (Submission.run ⟨v.address, w.transport⟩ v.scope.batch v.elements)) := by
  intro s hs
  obtain ⟨htree, hrequests⟩ := submission_run (w := w) v s
  refine ⟨htree.trans hs, [v], rfl, hrequests.trans ?_⟩
  rw [submissions, List.flatMap_singleton]

private theorem elementsOf_run (w : Surroundings σ) (scope : Scope) (path : Path) (s : Shell σ) :
    (∃ es, (w.elementsOf scope path).run s = (.ok es, s) ∧
      (es ≠ [] → SourceFile.scan w.registry scope.config s.tree scope.directory path scope.regex
        (w.commit scope.directory) = .ok es)) ∨
      ∃ stop, (w.elementsOf scope path).run s = (.error stop, s) := by
  rw [Surroundings.elementsOf, run_bind_of_ok (run_get s)]
  cases SourceFile.scan w.registry scope.config s.tree scope.directory path scope.regex
      (w.commit scope.directory) with
  | ok es => exact .inl ⟨es, rfl, fun _ => rfl⟩
  | error failure =>
    cases failure with
    | file f => exact .inl ⟨[], rfl, fun h => absurd rfl h⟩
    | pattern b => exact .inr ⟨patternStop b, rfl⟩

/-- A file is visited if it has elements, and passed over if it cannot be read. -/
theorem sends_scanFile (hscope : scope.Of w r tree) (tally : Tally) (path : Path) :
    Sends tree (Within w r tree path) (w.scanFile scope ⟨address, w.transport⟩ tally path) := by
  refine Sends.same_bind (same_say _) (within_nil path) fun _ => ?_
  intro s hs
  subst hs
  rcases elementsOf_run w scope path s with ⟨es, hrun, hscan⟩ | ⟨stop, hrun⟩
  · rw [run_bind_of_ok hrun]
    by_cases hes : es = []
    · rw [if_pos (by simpa using hes)]
      exact Sends.of_same (same_pure tally) (within_nil path) s rfl
    · rw [if_neg (by simpa using hes)]
      let v : Visit := ⟨scope, address, path, es⟩
      have hvisit : Within w r s.tree path [v] := within_singleton (v := v) ⟨hscope, hscan hes⟩
      have hsubmit := (sends_submission w s.tree v).mono fun visits h => h ▸ hvisit
      refine Sends.same_bind (same_say _) (within_nil path) (fun _ => ?_) s rfl
      exact hsubmit.bind_same fun _ => same_pure _
  · rw [run_bind_of_error hrun]
    exact ⟨rfl, [], within_nil path, rfl⟩

theorem sends_scanFiles (address : String) (hscope : scope.Of w r tree) (files : List Path) :
    Sends tree (Across (Within w r tree) files)
      (w.scanFiles scope ⟨address, w.transport⟩ files) := by
  have hnil : Across (Within w r tree) files [] := across_nil within_nil
  unfold Surroundings.scanFiles
  split
  · exact Sends.of_same (same_pure 0) hnil
  · refine Sends.same_bind (same_say _) hnil fun _ => ?_
    refine (Sends.foldlM within_nil (fun tally path => ?_) files _).bind_same fun tally => ?_
    · exact sends_scanFile hscope tally path
    · refine Moves.bind Same.lasting (same_say _) fun _ => ?_
      dsimp only
      split
      · exact Moves.bind Same.lasting (same_complain _) fun _ => same_pure _
      · exact same_pure _

theorem sends_subScanStep {scan : Path → Act σ Nat}
    (hscan : ∀ place, Sends tree (Within w r tree place) (scan place)) (indexed : Nat)
    (place : Path) :
    Sends tree (Within w r tree place) (do
      say ("\n--- Sub-scan for " ++ w.shown place ++ " ---")
      let more ← tryCatch (scan place) fun stop => throw (subScanStop place stop)
      pure (indexed + more)) := by
  refine Sends.same_bind (same_say _) (within_nil place) fun _ => ?_
  refine Sends.bind_same ?_ fun _ => same_pure _
  exact (hscan place).tryCatch fun stop => same_throw _

private theorem sends_subScans {scan : Path → Act σ Nat}
    (hscan : ∀ place, Sends tree (Within w r tree place) (scan place)) (places : List Path) :
    Sends tree (Across (Within w r tree) places) (w.subScans scan places) := by
  have hnil : Across (Within w r tree) places [] := across_nil within_nil
  unfold Surroundings.subScans
  split
  · exact Sends.of_same (same_pure 0) hnil
  · refine Sends.same_bind (same_say _) hnil fun _ => ?_
    exact Sends.foldlM within_nil (sends_subScanStep hscan) places 0

private theorem sends_scanPlan (address : String) (hscope : scope.Of w r tree)
    {scan : Path → Act σ Nat} (hscan : ∀ place, Sends tree (Within w r tree place) (scan place))
    (plan : Plan) :
    Sends tree (Across (Within w r tree) plan.places)
      (w.scanPlan scope ⟨address, w.transport⟩ scan plan) := by
  unfold Surroundings.scanPlan
  split
  · exact Sends.bind_same (Sends.of_same (same_say _) (across_nil within_nil)) fun _ => same_pure 0
  · refine (sends_scanFiles address hscope plan.files).bind (fun indexed => ?_) (across_nil within_nil)
      fun _ _ => Across.append
    exact (sends_subScans hscan plan.subScans).bind_same fun _ => same_pure _

theorem same_planOf (scope : Scope) (ignored : List String) :
    Moves Same (planOf scope ignored : Act σ Plan) := by
  refine Moves.get_bind fun s => ?_
  dsimp only
  split
  · exact Same.refl s
  · exact ⟨rfl, rfl, rfl⟩

/-- The plan of a scan is its place alone, or what is collected there. -/
theorem planOf_cases {ignored : List String} {plan : Plan} {s s' : Shell σ}
    (h : (planOf scope ignored).run s = (.ok plan, s')) :
    plan = { files := [scope.root] } ∨
      plan = collect s.tree scope.root scope.config.extensions ignored := by
  rw [planOf, run_bind_of_ok (run_get s)] at h
  dsimp only at h
  split at h
  · cases h
    exact .inl rfl
  · cases h
    exact .inr rfl

private theorem sends_plan (address : String) (hscope : scope.Of w r tree)
    (htree : tree.DistinctNames) {scan : Path → Act σ Nat}
    (hscan : ∀ place, Sends tree (Within w r tree place) (scan place)) (ignored : List String) :
    Sends tree (Within w r tree scope.root) (do
      let plan ← planOf scope ignored
      w.scanPlan scope ⟨address, w.transport⟩ scan plan) := by
  intro s hs
  subst hs
  have hsame := same_planOf scope ignored s
  rcases hrun : (planOf scope ignored).run s with ⟨stop | plan, s'⟩ <;> rw [hrun] at hsame
  · rw [run_bind_of_error hrun]
    exact ⟨hsame.tree, [], within_nil scope.root, hsame.requests⟩
  · rw [run_bind_of_ok hrun, ← hsame.requests]
    obtain ⟨htree', visits, hvisits, hrequests⟩ :=
      sends_scanPlan address hscope hscan plan s' hsame.tree
    refine ⟨htree', visits, ?_, hrequests⟩
    rcases planOf_cases hrun with rfl | rfl
    · refine hvisits.within (List.pairwise_singleton _ _) ?_
      simp
    · refine hvisits.within (apart_collect htree) fun place hplace => ?_
      obtain ⟨n, q, -, rfl, -, -⟩ := below_collect hplace
      exact List.prefix_append _ _

end Files

section Wipe

variable {w : Surroundings σ} {r : ScanRequest} {address : String}

/-- The requests of a scan that come before its visits. -/
def wipes (wanted : Bool) (address : String) : List Http.Request :=
  if wanted then [Demand.wipe.request address] else []

/-- The answer of the server that is asked to wipe. -/
def wiping (w : Surroundings σ) (address : String) (server : σ) : Except Client.Failure Int :=
  ((⟨address, w.send⟩ : Connection σ).wipe server).1

private theorem wipeFirst_run (w : Surroundings σ) (address : String) (wanted : Bool) (s : Shell σ) :
    ∃ result s', (wipeFirst ⟨address, w.transport⟩ wanted).run s = (result, s') ∧
      s'.tree = s.tree ∧ s'.requests = wipes wanted address ++ s.requests ∧
      (result.isOk = true → wanted = true → (wiping w address s.server).isOk = true) := by
  cases wanted with
  | false => exact ⟨_, _, rfl, rfl, rfl, fun _ h => nomatch h⟩
  | true =>
    let line := "🗑️  Wiping previous scans..."
    let told : Shell σ := { s with output := s.output ++ line ++ "\n" }
    let after := (w.transport (Demand.wipe.request address) told).2
    have hask : ((ask (Connection.wipe ⟨address, w.transport⟩) : Act σ Int).run told) =
        ((wiping w address s.server).mapError clientStop, after) := rfl
    have hsay : (say line : Act σ Unit).run s = (.ok (), told) := rfl
    rw [wipeFirst, if_pos rfl, run_bind_of_ok hsay]
    cases hanswer : wiping w address s.server with
    | error f =>
      rw [hanswer] at hask
      rw [run_bind_of_error hask]
      exact ⟨_, after, rfl, rfl, rfl, fun h => nomatch h⟩
    | ok deleted =>
      rw [hanswer] at hask
      rw [run_bind_of_ok hask]
      exact ⟨_, _, rfl, rfl, rfl, fun _ _ => rfl⟩

variable {scope : Scope} {scan : Path → Act σ Nat}

/-- What a scan does when it is connected: it wipes if it is to, and visits files unless that fails. -/
theorem connected_run {wanted : Bool} {ignored : List String} {s s' : Shell σ}
    {result : Except Stop Nat} (hscope : scope.Of w r s.tree) (hs : s.tree.DistinctNames)
    (hscan : ∀ place, Sends s.tree (Within w r s.tree place) (scan place))
    (h : (do
      say ("Using server: " ++ address)
      wipeFirst ⟨address, w.transport⟩ wanted
      let plan ← planOf scope ignored
      w.scanPlan scope ⟨address, w.transport⟩ scan plan : Act σ Nat).run s = (result, s')) :
    s'.tree = s.tree ∧ ∃ visits, Within w r s.tree scope.root visits ∧
      s'.requests = (wipes wanted address ++ submissions visits).reverse ++ s.requests ∧
      (visits ≠ [] → wanted = true → (wiping w address s.server).isOk = true) := by
  have hwipes : (wipes wanted address).reverse = wipes wanted address := by
    cases wanted <;> rfl
  let told : Shell σ := { s with output := s.output ++ ("Using server: " ++ address) ++ "\n" }
  have hsay : (say ("Using server: " ++ address) : Act σ Unit).run s = (.ok (), told) := rfl
  obtain ⟨answer, wiped, hrun, htree, hrequests, hok⟩ :=
    wipeFirst_run w address wanted told
  rw [run_bind_of_ok hsay] at h
  cases answer with
  | error stop =>
    rw [run_bind_of_error hrun] at h
    cases h
    refine ⟨htree, [], within_nil scope.root, ?_, fun hne => absurd rfl hne⟩
    rw [hrequests, submissions_nil, List.append_nil, hwipes]
  | ok u =>
    rw [run_bind_of_ok hrun] at h
    obtain ⟨htree', visits, hvisits, hrequests'⟩ :=
      sends_plan address hscope hs hscan ignored wiped htree
    rw [h] at htree' hrequests'
    refine ⟨htree', visits, hvisits, ?_, fun _ => hok rfl⟩
    rw [hrequests', hrequests, List.reverse_append, hwipes, List.append_assoc]

end Wipe

section Scan

variable {w : Surroundings σ} {r : ScanRequest} {interactive : Bool} {root : Path}
  {scan : Path → Act σ Nat}

/-- A scan that sends anything has been checked, and has wiped first if it was to. -/
theorem scanFrom_run {s s' : Shell σ} {result : Except Stop Nat} (hs : s.tree.DistinctNames)
    (hscan : ∀ tree : Node, tree.DistinctNames → ∀ place,
      Sends tree (Within w r tree place) (scan place))
    (h : (w.scanFrom r interactive scan root).run s = (result, s')) :
    (r.init = false → interactive = false → s'.tree = s.tree) ∧
      (result.isOk = false ∧ s'.requests = s.requests ∨
        ∃ scope address visits, Checked w r root s.tree s'.tree scope ∧
          Within w r s'.tree root visits ∧
          s'.requests = (wipes r.wipe address ++ submissions visits).reverse ++ s.requests ∧
          (visits ≠ [] → r.wipe = true → (wiping w address s.server).isOk = true)) := by
  have hsilent := moves_scopeOf Silent.lasting (silent_prepare w r interactive root) s
  have hsame : r.init = false → interactive = false →
      Same s ((w.scopeOf r interactive root).run s).2 := by
    intro hinit hinteractive
    refine moves_scopeOf Same.lasting ?_ s
    rw [Surroundings.prepare, hinit, hinteractive]
    exact same_pure ()
  rcases hrun : (w.scopeOf r interactive root).run s with ⟨stop | ⟨scope, ignored⟩, s₁⟩ <;>
    rw [hrun] at hsilent hsame
  · rw [Surroundings.scanFrom, run_bind_of_error hrun] at h
    cases h
    exact ⟨fun h h' => (hsame h h').tree, .inl ⟨rfl, hsilent.requests⟩⟩
  · rw [Surroundings.scanFrom, run_bind_of_ok hrun] at h
    rcases connect_run w scope.config.serverUrl s₁ with ⟨address, hconnect⟩ | ⟨stop, hconnect⟩
    · have hchecked := checked_of_scopeOf hrun
      have hnames := hsilent.names hs
      obtain ⟨htree, visits, hvisits, hrequests, hwiping⟩ :=
        connected_run hchecked.own hnames (hscan _ hnames) ((run_bind_of_ok hconnect).symm.trans h)
      rw [hsilent.requests] at hrequests
      rw [hsilent.server] at hwiping
      rw [← htree] at hchecked hvisits
      rw [hchecked.root] at hvisits
      exact ⟨fun h h' => htree.trans (hsame h h').tree,
        .inr ⟨scope, address, visits, hchecked, hvisits, hrequests, hwiping⟩⟩
    · rw [run_bind_of_error hconnect] at h
      cases h
      exact ⟨fun h h' => (hsame h h').tree, .inl ⟨rfl, hsilent.requests⟩⟩

end Scan

end CodeTwins.Command
