import CodeTwins.Proofs.Command.Scan

/-!
# Scans within scans

A scan and all scans within it wipe at most once, before all else, and visit no file twice. Scans lie
within one another no deeper than the file tree.
-/
namespace CodeTwins.Command

open Files Scan

variable {σ : Type} {w : Surroundings σ} {r : ScanRequest}

section Within

variable {tree : Node}

private theorem Scope.of_within {scope : Scope} : scope.Of w r.within tree ↔ scope.Of w r tree :=
  ⟨fun h => ⟨h.config, h.regex, h.batch⟩, fun h => ⟨h.config, h.regex, h.batch⟩⟩

private theorem Visit.of_within {v : Visit} : v.Of w r.within tree ↔ v.Of w r tree :=
  ⟨fun h => ⟨Scope.of_within.mp h.scope, h.elements⟩,
    fun h => ⟨Scope.of_within.mpr h.scope, h.elements⟩⟩

/-- A scan within another makes the visits that are asked for of the other. -/
theorem within_within {place : Path} {visits : List Visit} :
    Within w r.within tree place visits ↔ Within w r tree place visits :=
  ⟨fun h => ⟨h.below, h.distinct, fun v hv => Visit.of_within.mp (h.own v hv)⟩,
    fun h => ⟨h.below, h.distinct, fun v hv => Visit.of_within.mpr (h.own v hv)⟩⟩

end Within

/-- By induction on the depth: what a scan within another sends are the visits of its place. -/
theorem sends_scanWithin (depth : Nat) {tree : Node} (htree : tree.DistinctNames) (place : Path) :
    Sends tree (Within w r tree place) (w.scanWithin r depth place) := by
  induction depth generalizing tree place with
  | zero => exact Sends.of_same (same_pure 0) (within_nil place)
  | succ depth ih =>
    intro s hs
    subst hs
    have hscan : ∀ tree : Node, tree.DistinctNames → ∀ place,
        Sends tree (Within w r.within tree place) (w.scanWithin r depth place) :=
      fun tree htree place => (ih htree place).mono fun visits => within_within.mpr
    rcases h : (w.scanWithin r (depth + 1) place).run s with ⟨result, s'⟩
    obtain ⟨hsame, ⟨-, hnone⟩ | ⟨scope, address, visits, -, hvisits, hrequests, -⟩⟩ :=
      scanFrom_run htree hscan h
    · exact ⟨hsame rfl rfl, [], within_nil place, hnone⟩
    · have htree' : s'.tree = s.tree := hsame rfl rfl
      rw [htree'] at hvisits
      exact ⟨htree', visits, within_within.mp hvisits, hrequests⟩

private theorem subScan_run (w : Surroundings σ) (r : ScanRequest) (place : Path) (s : Shell σ) :
    (w.subScan r place).run s = (w.scanWithin r (s.tree.height + 1) place).run s := by
  rw [Surroundings.subScan, run_bind_of_ok (run_get s)]

private theorem sends_subScan {tree : Node} (htree : tree.DistinctNames) (place : Path) :
    Sends tree (Within w r tree place) (w.subScan r place) := by
  intro s hs
  rw [subScan_run]
  exact sends_scanWithin _ htree place s hs

section Depth

variable {tree : Node} {place : Path} {scan scan' : Path → Act σ Nat}

private theorem subScans_congr (hscan : ∀ place, Sends tree (Within w r tree place) (scan place))
    {places : List Path}
    (h : ∀ place ∈ places, ∀ s, s.tree = tree → (scan place).run s = (scan' place).run s)
    (s : Shell σ) (hs : s.tree = tree) :
    (w.subScans scan places).run s = (w.subScans scan' places).run s := by
  unfold Surroundings.subScans
  split
  · rfl
  · refine run_bind_congr fun _ s₁ hsay => ?_
    have htree : s₁.tree = tree := ((same_say _).of_run hsay).tree.trans hs
    refine run_foldlM_congr (sends_subScanStep hscan) ?_ 0 s₁ htree
    intro place hplace indexed s₂ hs₂
    refine run_bind_congr fun _ s₃ hsay => ?_
    have htree' : s₃.tree = tree := ((same_say _).of_run hsay).tree.trans hs₂
    rw [run_bind, run_bind, run_tryCatch, run_tryCatch, h place hplace s₃ htree']

private theorem scanPlan_congr {scope : Scope} {address : String} (hscope : scope.Of w r tree)
    (hscan : ∀ place, Sends tree (Within w r tree place) (scan place)) {plan : Plan}
    (h : ∀ place ∈ plan.subScans, ∀ s, s.tree = tree → (scan place).run s = (scan' place).run s)
    (s : Shell σ) (hs : s.tree = tree) :
    (w.scanPlan scope ⟨address, w.transport⟩ scan plan).run s =
      (w.scanPlan scope ⟨address, w.transport⟩ scan' plan).run s := by
  unfold Surroundings.scanPlan
  split
  · rfl
  · refine run_bind_congr fun indexed s₁ hfiles => ?_
    have htree := (sends_scanFiles address hscope plan.files s hs).1
    rw [hfiles] at htree
    rw [run_bind, run_bind, subScans_congr hscan h s₁ htree]

private theorem same_wipeFirst {c : Connection (Shell σ)} : Moves Same (wipeFirst c false) :=
  same_say _

/-- A scan within another goes on only to places below its own, no deeper than the file tree. -/
theorem scanFrom_congr {s : Shell σ}
    (hscan : ∀ place, Sends s.tree (Within w r s.tree place) (scan place))
    (h : ∀ n q, s.tree.at? place = some n → q ≠ [] → q.length ≤ n.height →
      ∀ s', s'.tree = s.tree → (scan (place ++ q)).run s' = (scan' (place ++ q)).run s') :
    (w.scanFrom r.within false scan place).run s =
      (w.scanFrom r.within false scan' place).run s := by
  refine run_bind_congr fun ⟨scope, ignored⟩ s₁ hrun => ?_
  have hsame : Same s s₁ := (moves_scopeOf Same.lasting (same_pure ())).of_run hrun
  have hchecked := checked_of_scopeOf hrun
  rw [hsame.tree] at hchecked
  refine run_bind_congr fun c s₂ hconnect => ?_
  obtain ⟨address, hc⟩ | ⟨stop, hstop⟩ := connect_run w scope.config.serverUrl s₁
  · obtain ⟨⟨⟩, rfl⟩ := Prod.mk.inj (hc.symm.trans hconnect)
    refine run_bind_congr fun _ s₃ hsay => ?_
    refine run_bind_congr fun _ s₄ hskip => ?_
    refine run_bind_congr fun plan s₅ hplan => ?_
    have hready : Same s s₄ := by
      have hsaid := (same_say _).of_run hsay
      have hskipped := same_wipeFirst.of_run hskip
      exact Same.lasting.trans hsame (Same.lasting.trans hsaid hskipped)
    have hplanned : s₅.tree = s.tree := ((same_planOf _ _).of_run hplan).tree.trans hready.tree
    refine scanPlan_congr (Scope.of_within.mp hchecked.own) hscan ?_ s₅ hplanned
    intro place' hplace' s' hs'
    rcases planOf_cases hplan with rfl | rfl
    · cases hplace'
    · obtain ⟨n, q, hn, rfl, hne, hq⟩ := below_collect (List.mem_append_right _ hplace')
      rw [hready.tree, hchecked.root] at hn
      rw [hchecked.root]
      exact h n q hn hne hq s' hs'
  · cases hstop.symm.trans hconnect

/-- A depth to which all scans within a place can be followed. -/
def Suffices (tree : Node) (place : Path) (depth : Nat) : Prop :=
  0 < depth ∧ ∀ n, tree.at? place = some n → n.height < depth

private theorem Suffices.below {depth : Nat} (h : Suffices tree place (depth + 1)) {n : Node}
    {q : Path} (hn : tree.at? place = some n) (hne : q ≠ []) (hq : q.length ≤ n.height) :
    Suffices tree (place ++ q) depth := by
  have hheight : n.height < depth + 1 := h.2 n hn
  have hpos : 0 < q.length := List.length_pos_iff.mpr hne
  refine ⟨by omega, fun m hm => ?_⟩
  rw [Node.at?_append, hn, Option.bind_some] at hm
  have hlower := Node.height_add_length_le hm
  omega

private theorem suffices_height (tree : Node) (place : Path) :
    Suffices tree place (tree.height + 1) := by
  refine ⟨Nat.succ_pos _, fun n hn => ?_⟩
  have hlower := Node.height_add_length_le hn
  omega

/-- By induction on one depth: two that suffice come to the same. -/
theorem scanWithin_eq {depth depth' : Nat} {s : Shell σ} (hs : s.tree.DistinctNames)
    (h : Suffices s.tree place depth) (h' : Suffices s.tree place depth') :
    (w.scanWithin r depth place).run s = (w.scanWithin r depth' place).run s := by
  induction depth generalizing depth' place s with
  | zero => exact absurd h.1 (Nat.lt_irrefl 0)
  | succ depth ih =>
    cases depth' with
    | zero => exact absurd h'.1 (Nat.lt_irrefl 0)
    | succ depth' =>
      refine scanFrom_congr (sends_scanWithin depth hs) ?_
      intro n q hn hne hq s' hs'
      rw [← hs'] at hs h h' hn
      exact ih hs (h.below hn hne hq) (h'.below hn hne hq)

/-- The bound on the depth cuts nothing off: a scan within another is a scan whose own scans within are
such scans again. -/
theorem subScan_eq (w : Surroundings σ) (r : ScanRequest) (place : Path) (s : Shell σ)
    (hs : s.tree.DistinctNames) :
    (w.subScan r place).run s = (w.scanFrom r.within false (w.subScan r) place).run s := by
  rw [subScan_run]
  refine scanFrom_congr (sends_scanWithin _ hs) ?_
  intro n q hn hne hq s' hs'
  rw [subScan_run, hs']
  have hbelow := (suffices_height s.tree place).below hn hne hq
  rw [← hs'] at hs hbelow ⊢
  exact scanWithin_eq hs hbelow (suffices_height s'.tree (place ++ q))

end Depth

end CodeTwins.Command
