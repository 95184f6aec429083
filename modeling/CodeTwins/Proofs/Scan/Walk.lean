import CodeTwins.Proofs.Files.Tree
import CodeTwins.Scan.Walk
import Mathlib.Data.List.Basic

/-!
# What a walk finds

Of two places that a walk finds, whether it takes them as files or leaves them closed, neither lies
below the other. So what is found below one place is not found below another.
-/
namespace CodeTwins.Scan

open Files

/-- Neither place lies below the other. -/
def Apart (p q : Path) : Prop :=
  ¬ p <+: q ∧ ¬ q <+: p

namespace Apart

variable {p q a b : Path}

private theorem symm (h : Apart p q) : Apart q p :=
  ⟨h.2, h.1⟩

/-- What lies below places that are apart is apart. -/
theorem below (h : Apart a b) (ha : a <+: p) (hb : b <+: q) : Apart p q := by
  have hcomparable : ∀ c : Path, a <+: c → ¬ b <+: c := by
    intro c hac hbc
    rcases List.prefix_or_prefix_of_prefix hac hbc with hab | hba
    · exact h.1 hab
    · exact h.2 hba
  exact ⟨fun hpq => hcomparable q (ha.trans hpq) hb, fun hqp => hcomparable p ha (hb.trans hqp)⟩

private theorem append (h : Apart p q) (start : Path) : Apart (start ++ p) (start ++ q) := by
  rw [Apart, List.prefix_append_right_inj, List.prefix_append_right_inj]
  exact h

end Apart

private theorem apart_of_names (place : Path) {name other : String} (h : name ≠ other) :
    Apart (place ++ [name]) (place ++ [other]) := by
  refine Apart.append ⟨?_, ?_⟩ place <;> simp [h, Ne.symm h]

section Sorted

theorem insertEntry_perm (entry : String × Node) (es : List (String × Node)) :
    (insertEntry entry es).Perm (entry :: es) := by
  induction es with
  | nil => exact .refl _
  | cons other es ih =>
    rw [insertEntry]
    split
    · exact .refl _
    · exact (ih.cons other).trans (.swap entry other es)

theorem sortedEntries_perm (es : List (String × Node)) :
    (sortedEntries es).Perm (es.map fun entry => (entry.1, sorted entry.2)) := by
  induction es with
  | nil => exact .refl _
  | cons entry es ih =>
    obtain ⟨name, n⟩ := entry
    rw [sortedEntries]
    exact (insertEntry_perm _ _).trans (ih.cons _)

theorem map_fst_sortedEntries_perm (es : List (String × Node)) :
    ((sortedEntries es).map (·.1)).Perm (es.map (·.1)) := by
  have hperm := (sortedEntries_perm es).map (·.1)
  rw [List.map_map] at hperm
  exact hperm

mutual

theorem distinctNames_sorted : ∀ n : Node, n.DistinctNames → (sorted n).DistinctNames
  | .file _, h => h
  | .dir es, ⟨hnames, hentries⟩ => by
    rw [sorted, Node.DistinctNames]
    exact ⟨(map_fst_sortedEntries_perm es).nodup_iff.mpr hnames, distinctNamesIn_sorted es hentries⟩

private theorem distinctNamesIn_sorted : ∀ es : List (String × Node), Node.DistinctNamesIn es →
    Node.DistinctNamesIn (sortedEntries es)
  | [], h => h
  | (name, n) :: es, ⟨hn, hes⟩ => by
    have hrest := Node.distinctNamesIn_iff.mp (distinctNamesIn_sorted es hes)
    rw [sortedEntries, Node.distinctNamesIn_iff]
    intro entry hentry
    rcases List.mem_cons.mp ((insertEntry_perm _ _).mem_iff.mp hentry) with rfl | hmem
    · exact distinctNames_sorted n hn
    · exact hrest entry hmem

end

private theorem heightIn_insertEntry (entry : String × Node) (es : List (String × Node)) :
    Node.heightIn (insertEntry entry es) = max (entry.2.height + 1) (Node.heightIn es) := by
  induction es with
  | nil => rfl
  | cons other es ih =>
    rw [insertEntry]
    split
    · rfl
    · rw [Node.heightIn, ih, Node.heightIn, Nat.max_left_comm]

mutual

private theorem height_sorted : ∀ n : Node, (sorted n).height = n.height
  | .file _ => rfl
  | .dir es => heightIn_sortedEntries es

private theorem heightIn_sortedEntries : ∀ es : List (String × Node),
    Node.heightIn (sortedEntries es) = Node.heightIn es
  | [] => rfl
  | (name, n) :: es => by
    rw [sortedEntries, heightIn_insertEntry, height_sorted n, heightIn_sortedEntries es,
      Node.heightIn]

end

end Sorted

namespace Walk

/-- All places that a walk finds. -/
def found (w : Walk) : List Path :=
  w.files ++ w.closed

private theorem found_append_perm (a b : Walk) : (a.append b).found.Perm (a.found ++ b.found) := by
  simp only [found, append, List.append_assoc]
  refine List.Perm.append_left _ ?_
  rw [← List.append_assoc, ← List.append_assoc]
  exact List.perm_append_comm.append_right _

private theorem mem_found_append {a b : Walk} {p : Path} :
    p ∈ (a.append b).found ↔ p ∈ a.found ∨ p ∈ b.found := by
  rw [(found_append_perm a b).mem_iff, List.mem_append]

private theorem pairwise_found_append {a b : Walk} (ha : a.found.Pairwise Apart)
    (hb : b.found.Pairwise Apart) (hab : ∀ p ∈ a.found, ∀ q ∈ b.found, Apart p q) :
    (a.append b).found.Pairwise Apart := by
  rw [(found_append_perm a b).pairwise_iff fun h => h.symm]
  exact List.pairwise_append.mpr ⟨ha, hb, hab⟩

end Walk

section Found

variable {isSkipped : Path → Bool} {isClosed : Node → Bool}

mutual

theorem below_walkAt : ∀ (n : Node) (place : Path),
    ∀ p ∈ (walkAt isSkipped isClosed place n).found, ∃ q, p = place ++ q ∧ q.length ≤ n.height
  | .file bytes, place => by
    intro p hp
    rw [walkAt] at hp
    split at hp
    · cases hp
    · exact ⟨[], by rw [List.mem_singleton.mp hp, List.append_nil], Nat.zero_le _⟩
  | .dir es, place => by
    intro p hp
    rw [walkAt] at hp
    split at hp
    · cases hp
    · split at hp
      · exact ⟨[], by rw [List.mem_singleton.mp hp, List.append_nil], Nat.zero_le _⟩
      · obtain ⟨entry, hentry, q, rfl, hq⟩ := below_walkIn es place p hp
        refine ⟨entry.1 :: q, by rw [List.append_assoc, List.singleton_append], ?_⟩
        exact Nat.lt_of_le_of_lt hq (Node.height_lt_of_mem hentry)

theorem below_walkIn : ∀ (es : List (String × Node)) (place : Path),
    ∀ p ∈ (walkIn isSkipped isClosed place es).found,
      ∃ entry ∈ es, ∃ q, p = place ++ [entry.1] ++ q ∧ q.length ≤ entry.2.height
  | [], place => fun p hp => nomatch hp
  | (name, n) :: es, place => by
    intro p hp
    rw [walkIn] at hp
    rcases Walk.mem_found_append.mp hp with hfirst | hrest
    · exact ⟨(name, n), .head _, below_walkAt n (place ++ [name]) p hfirst⟩
    · obtain ⟨entry, hentry, hbelow⟩ := below_walkIn es place p hrest
      exact ⟨entry, .tail _ hentry, hbelow⟩

end

mutual

private theorem apart_walkAt : ∀ (n : Node) (place : Path), n.DistinctNames →
    (walkAt isSkipped isClosed place n).found.Pairwise Apart
  | .file bytes, place, _ => by
    rw [walkAt]
    split
    · exact .nil
    · exact List.pairwise_singleton _ _
  | .dir es, place, ⟨hnames, hentries⟩ => by
    rw [walkAt]
    split
    · exact .nil
    · split
      · exact List.pairwise_singleton _ _
      · exact apart_walkIn es place hnames hentries

private theorem apart_walkIn : ∀ (es : List (String × Node)) (place : Path), (es.map (·.1)).Nodup →
    Node.DistinctNamesIn es → (walkIn isSkipped isClosed place es).found.Pairwise Apart
  | [], place, _, _ => by
    rw [walkIn]
    exact .nil
  | (name, n) :: es, place, hnames, ⟨hn, hes⟩ => by
    obtain ⟨hname, hrest⟩ := List.nodup_cons.mp hnames
    rw [walkIn]
    refine Walk.pairwise_found_append (apart_walkAt n _ hn) (apart_walkIn es place hrest hes) ?_
    intro p hp q hq
    obtain ⟨way, rfl, -⟩ := below_walkAt n _ p hp
    obtain ⟨entry, hentry, way', rfl, -⟩ := below_walkIn es place q hq
    have hne : name ≠ entry.1 := fun heq => hname (List.mem_map.mpr ⟨entry, hentry, heq.symm⟩)
    exact (apart_of_names place hne).below (List.prefix_append _ _) (List.prefix_append _ _)

end

end Found

section Collect

variable {tree : Node} {start : Path} {extensions ignored : List String}

private theorem apart_walk (htree : tree.DistinctNames) (isClosed : Node → Bool) :
    (walk tree start ignored isClosed).found.Pairwise Apart := by
  unfold walk
  split
  case h_1 n hn =>
    obtain ⟨hnames, hentries⟩ := (distinctNames_sorted n (htree.at? hn)).entries
    exact apart_walkIn _ _ hnames (Node.distinctNamesIn_iff.mpr hentries)
  case h_2 => exact .nil

private theorem below_walk {isClosed : Node → Bool} {p : Path}
    (hp : p ∈ (walk tree start ignored isClosed).found) :
    ∃ n, tree.at? start = some n ∧ p ≠ [] ∧ p.length ≤ n.height := by
  unfold walk at hp
  split at hp
  case h_1 n hn =>
    cases n with
    | file bytes => cases hp
    | dir es =>
      obtain ⟨entry, hentry, q, rfl, hq⟩ := below_walkIn _ _ p hp
      refine ⟨_, hn, by simp, ?_⟩
      rw [← height_sorted]
      exact Nat.lt_of_le_of_lt hq (Node.height_lt_of_mem hentry)
  case h_2 => cases hp

/-- All places of a plan: the files and what is left to other scans. -/
def Plan.places (plan : Plan) : List Path :=
  plan.files ++ plan.subScans

/-- The places of a plan come from different places that the walk finds. -/
theorem places_collect (tree : Node) (start : Path) (extensions ignored : List String) :
    ∃ found : List Path, found.Sublist (walk tree start ignored hasConfig).found ∧
      (collect tree start extensions ignored).places = found.map (start ++ ·) := by
  let found := walk tree start ignored hasConfig
  let wanted := extensions.map normalExtension
  refine ⟨found.files.filter (fun p => wanted.contains (extensionOf p.name)) ++ found.closed, ?_, ?_⟩
  · exact List.filter_sublist.append (List.Sublist.refl _)
  · exact List.map_append.symm

/-- No place of a plan lies below another, neither of files nor of what is left to other scans. -/
theorem apart_collect (htree : tree.DistinctNames) :
    (collect tree start extensions ignored).places.Pairwise Apart := by
  obtain ⟨found, hfound, hplaces⟩ := places_collect tree start extensions ignored
  rw [hplaces, List.pairwise_map]
  exact ((apart_walk htree hasConfig).sublist hfound).imp fun h => h.append start

/-- The places of a plan lie below the place where the walk starts, no deeper than that is high. -/
theorem below_collect {p : Path} (hp : p ∈ (collect tree start extensions ignored).places) :
    ∃ n q, tree.at? start = some n ∧ p = start ++ q ∧ q ≠ [] ∧ q.length ≤ n.height := by
  obtain ⟨found, hfound, hplaces⟩ := places_collect tree start extensions ignored
  rw [hplaces] at hp
  obtain ⟨q, hq, rfl⟩ := List.mem_map.mp hp
  obtain ⟨n, hn, hne, hheight⟩ := below_walk (hfound.subset hq)
  exact ⟨n, q, hn, rfl, hne, hheight⟩

end Collect

end CodeTwins.Scan
