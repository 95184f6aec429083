import CodeTwins.Command.Scan
import CodeTwins.Proofs.Client.Account
import CodeTwins.Proofs.Command.Shell
import CodeTwins.Proofs.Scan.Walk

/-!
# The visits of scans

All that a scan sends after wiping, it sends at visits to files. A scan of a place visits files at or
below it, each once, and so do all scans within it together.
-/
namespace CodeTwins.Command

open Files Scan

variable {σ α β : Type}

/-- The elements of a file, as a scan submits them to the server at an address. -/
structure Visit where
  scope : Scope
  address : String
  file : Path
  elements : List Element

def Visit.requests (v : Visit) : List Http.Request :=
  Submission.requests v.address v.scope.batch v.elements

/-- The requests of visits, one visit after another. -/
def submissions (visits : List Visit) : List Http.Request :=
  visits.flatMap Visit.requests

@[simp] theorem submissions_nil : submissions [] = [] :=
  rfl

@[simp] theorem submissions_append (a b : List Visit) :
    submissions (a ++ b) = submissions a ++ submissions b :=
  List.flatMap_append

theorem method_of_mem_submissions {visits : List Visit} {q : Http.Request}
    (hq : q ∈ submissions visits) : q.method = .post := by
  obtain ⟨v, -, hq⟩ := List.mem_flatMap.mp hq
  exact Submission.method_of_mem_requests hq

/-- A scope is that of a scan that is asked for, or of one within it. -/
structure Scope.Of (w : Surroundings σ) (r : ScanRequest) (tree : Node) (scope : Scope) : Prop where
  config : ScanConfig.resolve w.registry tree scope.root { url := r.url } = .ok scope.config
  regex : scope.regex = r.regex
  batch : scope.batch = r.batch

/-- A visit submits the elements of its file, by the configuration of its scope. -/
structure Visit.Of (w : Surroundings σ) (r : ScanRequest) (tree : Node) (v : Visit) : Prop where
  scope : v.scope.Of w r tree
  elements : SourceFile.scan w.registry v.scope.config tree v.scope.directory v.file v.scope.regex
    (w.commit v.scope.directory) = .ok v.elements

/-- The visits that a scan of a place makes: to files there or below, to each once. -/
structure Within (w : Surroundings σ) (r : ScanRequest) (tree : Node) (place : Path)
    (visits : List Visit) : Prop where
  below : ∀ v ∈ visits, place <+: v.file
  distinct : (visits.map Visit.file).Nodup
  own : ∀ v ∈ visits, v.Of w r tree

/-- Visits in groups, one for each place. -/
def Across (P : Path → List Visit → Prop) (places : List Path) (visits : List Visit) : Prop :=
  ∃ groups, List.Forall₂ P places groups ∧ visits = groups.flatten

section Places

variable {w : Surroundings σ} {r : ScanRequest} {tree : Node} {P : Path → List Visit → Prop}
  {places more : List Path} {visits others : List Visit}

theorem within_nil (place : Path) : Within w r tree place [] := by
  constructor <;> simp

theorem within_singleton {v : Visit} (h : v.Of w r tree) : Within w r tree v.file [v] := by
  constructor <;> simp [h]

private theorem Across.cons {place : Path} (h : P place visits) (hrest : Across P places others) :
    Across P (place :: places) (visits ++ others) := by
  obtain ⟨groups, hgroups, rfl⟩ := hrest
  exact ⟨visits :: groups, .cons h hgroups, rfl⟩

theorem across_nil (hP : ∀ place, P place []) : Across P places [] := by
  induction places with
  | nil => exact ⟨[], .nil, rfl⟩
  | cons place places ih => exact ih.cons (hP place)

theorem Across.append (h : Across P places visits) (h' : Across P more others) :
    Across P (places ++ more) (visits ++ others) := by
  obtain ⟨groups, hgroups, rfl⟩ := h
  induction hgroups with
  | nil => exact h'
  | cons hfirst _ ih =>
    rw [List.flatten_cons, List.append_assoc]
    exact ih.cons hfirst

private theorem Within.above {root place : Path} (h : Within w r tree place visits)
    (hroot : root <+: place) : Within w r tree root visits :=
  ⟨fun v hv => hroot.trans (h.below v hv), h.distinct, h.own⟩

/-- Visits of which no two are to one file are joined. -/
theorem Within.append {root : Path} (h : Within w r tree root visits)
    (h' : Within w r tree root others)
    (hfiles : ∀ v ∈ visits, ∀ v' ∈ others, v.file ≠ v'.file) :
    Within w r tree root (visits ++ others) where
  below v hv := (List.mem_append.mp hv).elim (h.below v) (h'.below v)
  distinct := by
    rw [List.map_append, List.nodup_append]
    refine ⟨h.distinct, h'.distinct, ?_⟩
    rw [List.forall_mem_map]
    intro v hv
    rw [List.forall_mem_map]
    exact hfiles v hv
  own v hv := (List.mem_append.mp hv).elim (h.own v) (h'.own v)

private theorem Across.placed (h : Across (Within w r tree) places visits) :
    ∀ v ∈ visits, ∃ place ∈ places, place <+: v.file := by
  obtain ⟨groups, hgroups, rfl⟩ := h
  induction hgroups with
  | nil => simp
  | @cons place group places groups hfirst _ ih =>
    intro v hv
    rw [List.flatten_cons] at hv
    rcases List.mem_append.mp hv with hv | hv
    · exact ⟨place, .head _, hfirst.below v hv⟩
    · obtain ⟨place', hplace', hbelow⟩ := ih v hv
      exact ⟨place', .tail _ hplace', hbelow⟩

/-- Groups of visits to places that are apart have no file in common. -/
theorem Across.within (hplaces : places.Pairwise Apart) {root : Path}
    (hbelow : ∀ place ∈ places, root <+: place) (h : Across (Within w r tree) places visits) :
    Within w r tree root visits := by
  obtain ⟨groups, hgroups, rfl⟩ := h
  induction hgroups with
  | nil => exact within_nil root
  | @cons place group places groups hfirst hrest ih =>
    obtain ⟨hapart, hplaces⟩ := List.pairwise_cons.mp hplaces
    obtain ⟨hroot, hbelow⟩ := List.forall_mem_cons.mp hbelow
    refine (hfirst.above hroot).append (ih hplaces hbelow) ?_
    intro v hv v' hv' heq
    obtain ⟨place', hplace', hbelow'⟩ := Across.placed ⟨groups, hrest, rfl⟩ v' hv'
    have hfiles := (hapart place' hplace').below (hfirst.below v hv) hbelow'
    exact hfiles.1 (heq ▸ List.prefix_rfl)

end Places

/-- With some file tree, an action leaves it as it is and sends what some visits send. -/
def Sends (tree : Node) (P : List Visit → Prop) (m : Act σ α) : Prop :=
  ∀ s, s.tree = tree → (m.run s).2.tree = tree ∧
    ∃ visits, P visits ∧ (m.run s).2.requests = (submissions visits).reverse ++ s.requests

namespace Sends

variable {tree : Node} {P Q R : List Visit → Prop} {m : Act σ α} {f : α → Act σ β}

theorem of_same (hm : Moves Same m) (hP : P []) : Sends tree P m :=
  fun s hs => ⟨(hm s).tree.trans hs, [], hP, (hm s).requests⟩

theorem mono (hPQ : ∀ visits, P visits → Q visits) (h : Sends tree P m) : Sends tree Q m := by
  intro s hs
  obtain ⟨htree, visits, hvisits, hrequests⟩ := h s hs
  exact ⟨htree, visits, hPQ visits hvisits, hrequests⟩

theorem bind (hm : Sends tree P m) (hf : ∀ a, Sends tree Q (f a)) (hQ : Q [])
    (hR : ∀ visits others, P visits → Q others → R (visits ++ others)) :
    Sends tree R (m >>= f) := by
  intro s hs
  obtain ⟨htree, visits, hvisits, hrequests⟩ := hm s hs
  rcases hrun : m.run s with ⟨stop | a, s'⟩ <;> rw [hrun] at htree hrequests
  · rw [run_bind_of_error hrun]
    have hR' := hR visits [] hvisits hQ
    rw [List.append_nil] at hR'
    exact ⟨htree, visits, hR', hrequests⟩
  · rw [run_bind_of_ok hrun]
    obtain ⟨htree', others, hothers, hrequests'⟩ := hf a s' htree
    refine ⟨htree', visits ++ others, hR visits others hvisits hothers, ?_⟩
    rw [hrequests', hrequests, submissions_append, List.reverse_append, List.append_assoc]

theorem same_bind (hm : Moves Same m) (hP : P []) (hf : ∀ a, Sends tree P (f a)) :
    Sends tree P (m >>= f) :=
  bind (of_same hm (P := (· = [])) rfl) hf hP fun _ _ hnil h => hnil ▸ h

theorem bind_same (hm : Sends tree P m) (hf : ∀ a, Moves Same (f a)) : Sends tree P (m >>= f) := by
  refine hm.bind (Q := (· = [])) (fun a => of_same (hf a) rfl) rfl ?_
  intro visits others h hnil
  rw [hnil, List.append_nil]
  exact h

theorem tryCatch (hm : Sends tree P m) {f : Stop → Act σ α} (hf : ∀ stop, Moves Same (f stop)) :
    Sends tree P (tryCatch m f) := by
  intro s hs
  have hfirst := hm s hs
  rw [run_tryCatch]
  rcases hrun : m.run s with ⟨stop | a, s'⟩ <;> rw [hrun] at hfirst
  · have hlast := hf stop s'
    rw [hlast.tree, hlast.requests]
    exact hfirst
  · exact hfirst

theorem foldlM {P : Path → List Visit → Prop} (hP : ∀ place, P place [])
    {f : β → Path → Act σ β} (hf : ∀ b place, Sends tree (P place) (f b place)) (places : List Path)
    (b : β) : Sends tree (Across P places) (places.foldlM f b) := by
  induction places generalizing b with
  | nil => exact of_same (same_pure b) (across_nil hP)
  | cons place places ih =>
    rw [List.foldlM_cons]
    exact (hf b place).bind ih (across_nil hP) fun _ _ => Across.cons

end Sends

/-- Folds are the same if their steps are, in shells with the file tree that all steps leave. -/
theorem run_foldlM_congr {tree : Node} {P : Path → List Visit → Prop} {f g : β → Path → Act σ β}
    (hf : ∀ b place, Sends tree (P place) (f b place)) {places : List Path}
    (h : ∀ place ∈ places, ∀ b s, s.tree = tree → (f b place).run s = (g b place).run s) (b : β)
    (s : Shell σ) (hs : s.tree = tree) :
    (places.foldlM f b).run s = (places.foldlM g b).run s := by
  induction places generalizing b s with
  | nil => rfl
  | cons place places ih =>
    have hfirst := h place (.head _) b s hs
    have htree := (hf b place s hs).1
    rw [List.foldlM_cons, List.foldlM_cons, run_bind, run_bind, ← hfirst]
    rcases hrun : (f b place).run s with ⟨stop | b', s'⟩
    · rfl
    · rw [hrun] at htree
      exact ih (fun place' hplace => h place' (.tail _ hplace)) b' s' htree

end CodeTwins.Command
