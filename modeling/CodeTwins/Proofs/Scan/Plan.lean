import CodeTwins.Proofs.Scan.Walk
import Mathlib.Data.List.Infix
import Mathlib.Data.String.Basic

/-!
# What a plan holds

A walk comes to a place if nothing on the way there is ignored and no directory on the way has a
configuration of its own. It takes names in order, so it finds places in the order of their ways. A
plan therefore shares out the wanted files: each is in it, or lies in exactly one directory that is
left to another scan.
-/
namespace CodeTwins.Scan

open Files

section Sorted

variable {n : Node}

private theorem entry?_sorted (hn : n.DistinctNames) (name : String) :
    Node.entry? (sorted n) name = (n.entry? name).map sorted := by
  refine Option.ext fun child => ?_
  rw [(distinctNames_sorted n hn).entry?_eq_some_iff, Option.map_eq_some_iff]
  simp only [hn.entry?_eq_some_iff]
  cases n with
  | file bytes => simp [sorted, Node.entries]
  | dir es =>
    rw [sorted, Node.entries, Node.entries, (sortedEntries_perm es).mem_iff, List.mem_map]
    constructor
    · rintro ⟨⟨other, m⟩, hmem, heq⟩
      obtain ⟨rfl, rfl⟩ := Prod.mk.inj heq
      exact ⟨m, hmem, rfl⟩
    · rintro ⟨m, hmem, rfl⟩
      exact ⟨(name, m), hmem, rfl⟩

private theorem at?_sorted (hn : n.DistinctNames) (p : Path) :
    (sorted n).at? p = (n.at? p).map sorted := by
  induction p generalizing n with
  | nil => rfl
  | cons name p ih =>
    rw [Node.at?_cons, Node.at?_cons, entry?_sorted hn]
    cases hchild : n.entry? name with
    | none => rfl
    | some child => exact ih (hn.entries.2 _ (Node.mem_entries_of_eq_some hchild))

private theorem isDir_sorted (n : Node) : (sorted n).isDir = n.isDir := by
  cases n <;> rfl

private theorem hasConfig_sorted (hn : n.DistinctNames) : hasConfig (sorted n) = hasConfig n := by
  unfold hasConfig Node.isFileAt
  rw [at?_sorted hn]
  rcases n.at? [ScanConfig.fileName] with _ | ⟨_ | _⟩ <;> rfl

mutual

/-- All directories list their names in order. -/
def InOrder : Node → Prop
  | .file _ => True
  | .dir es => (es.map (·.1)).Pairwise (· < ·) ∧ InOrderIn es

def InOrderIn : List (String × Node) → Prop
  | [] => True
  | (_, n) :: rest => InOrder n ∧ InOrderIn rest

end

private theorem inOrderIn_iff {es : List (String × Node)} :
    InOrderIn es ↔ ∀ entry ∈ es, InOrder entry.2 := by
  induction es with
  | nil => simp [InOrderIn]
  | cons entry es ih =>
    obtain ⟨name, n⟩ := entry
    rw [InOrderIn, ih, List.forall_mem_cons]

private theorem pairwise_insertEntry {entry : String × Node} {es : List (String × Node)}
    (hes : (es.map (·.1)).Pairwise (· < ·)) (hentry : entry.1 ∉ es.map (·.1)) :
    ((insertEntry entry es).map (·.1)).Pairwise (· < ·) := by
  induction es with
  | nil => simp [insertEntry]
  | cons other es ih =>
    rw [List.map_cons] at hes hentry
    obtain ⟨hother, hrest⟩ := List.pairwise_cons.mp hes
    obtain ⟨hne, hnot⟩ := not_or.mp (mt List.mem_cons.mpr hentry)
    rw [insertEntry]
    split
    case isTrue hle =>
      have hlt : entry.1 < other.1 := lt_of_le_of_ne hle hne
      rw [List.map_cons, List.map_cons]
      refine List.pairwise_cons.mpr ⟨?_, hes⟩
      exact List.forall_mem_cons.mpr ⟨hlt, fun name hname => hlt.trans (hother name hname)⟩
    case isFalse hle =>
      rw [List.map_cons]
      refine List.pairwise_cons.mpr ⟨?_, ih hrest hnot⟩
      intro name hname
      have hperm := (insertEntry_perm entry es).map (·.1)
      rcases List.mem_cons.mp (hperm.mem_iff.mp hname) with rfl | hmem
      · exact not_le.mp hle
      · exact hother name hmem

mutual

private theorem inOrder_sorted : ∀ n : Node, n.DistinctNames → InOrder (sorted n)
  | .file _, _ => trivial
  | .dir es, ⟨hnames, hentries⟩ => by
    rw [sorted, InOrder]
    exact inOrder_sortedEntries es hnames hentries

private theorem inOrder_sortedEntries : ∀ es : List (String × Node), (es.map (·.1)).Nodup →
    Node.DistinctNamesIn es →
      ((sortedEntries es).map (·.1)).Pairwise (· < ·) ∧ InOrderIn (sortedEntries es)
  | [], _, _ => ⟨.nil, trivial⟩
  | (name, n) :: es, hnames, ⟨hn, hes⟩ => by
    obtain ⟨hname, hrest⟩ := List.nodup_cons.mp hnames
    obtain ⟨hsorted, hin⟩ := inOrder_sortedEntries es hrest hes
    have hnot : name ∉ (sortedEntries es).map (·.1) :=
      fun hmem => hname ((map_fst_sortedEntries_perm es).mem_iff.mp hmem)
    rw [sortedEntries]
    refine ⟨pairwise_insertEntry hsorted hnot, inOrderIn_iff.mpr fun entry hentry => ?_⟩
    rcases List.mem_cons.mp ((insertEntry_perm _ _).mem_iff.mp hentry) with rfl | hmem
    · exact inOrder_sorted n hn
    · exact inOrderIn_iff.mp hin entry hmem

end

end Sorted

namespace Walk

/-- What a walk finds of one kind: the directories that it does not enter, or the files. -/
def places (w : Walk) : (ofDirs : Bool) → List Path
  | true => w.closed
  | false => w.files

variable {ofDirs : Bool}

@[simp] theorem places_empty : places {} ofDirs = [] := by
  cases ofDirs <;> rfl

@[simp] theorem places_append (a b : Walk) :
    (a.append b).places ofDirs = a.places ofDirs ++ b.places ofDirs := by
  cases ofDirs <;> rfl

private theorem mem_found_of_mem_places {w : Walk} {p : Path} (hp : p ∈ w.places ofDirs) :
    p ∈ w.found := by
  cases ofDirs with
  | true => exact List.mem_append_right _ hp
  | false => exact List.mem_append_left _ hp

end Walk

section Reached

variable {isSkipped : Path → Bool} {isClosed : Node → Bool} {place : Path} {n m : Node} {way : Path}
  {ofDirs : Bool}

/-- A way leads from a directory to something: nothing on it is skipped, and no directory on it is
closed. -/
structure Reaches (isSkipped : Path → Bool) (isClosed : Node → Bool) (place : Path) (n : Node)
    (way : Path) (m : Node) : Prop where
  leads : n.at? way = some m
  kept : ∀ p, p <+: way → p ≠ [] → isSkipped (place ++ p) = false
  entered : ∀ p, p <+: way → p ≠ [] → p ≠ way → ∀ d, n.at? p = some d → isClosed d = false

theorem reaches_nil : Reaches isSkipped isClosed place n [] m ↔ n = m := by
  constructor
  · exact fun h => Option.some.inj h.leads
  · rintro rfl
    refine ⟨rfl, ?_, ?_⟩
    · exact fun p hp hne => absurd (List.prefix_nil.mp hp) hne
    · exact fun p hp hne => absurd (List.prefix_nil.mp hp) hne

theorem reaches_cons {name : String} :
    Reaches isSkipped isClosed place n (name :: way) m ↔
      ∃ child, n.entry? name = some child ∧ isSkipped (place ++ [name]) = false ∧
        (way ≠ [] → isClosed child = false) ∧
        Reaches isSkipped isClosed (place ++ [name]) child way m := by
  have hat : ∀ {child}, n.entry? name = some child → ∀ p, n.at? (name :: p) = child.at? p := by
    intro child hchild p
    rw [Node.at?_cons, hchild, Option.bind_some]
  constructor
  · rintro ⟨hleads, hkept, hentered⟩
    rw [Node.at?_cons] at hleads
    obtain ⟨child, hchild, hleads⟩ := Option.bind_eq_some_iff.mp hleads
    refine ⟨child, hchild, hkept [name] (by simp) (by simp), ?_, hleads, ?_, ?_⟩
    · intro hway
      exact hentered [name] (by simp) (by simp) (by simpa using hway.symm) child (hat hchild [])
    · intro p hp _
      rw [List.append_assoc]
      exact hkept (name :: p) (List.cons_prefix_cons.mpr ⟨rfl, hp⟩) (by simp)
    · intro p hp _ hne d hd
      exact hentered (name :: p) (List.cons_prefix_cons.mpr ⟨rfl, hp⟩) (by simp) (by simpa using hne)
        d ((hat hchild p).trans hd)
  · rintro ⟨child, hchild, hskipped, hclosed, hleads, hkept, hentered⟩
    refine ⟨(hat hchild way).trans hleads, ?_, ?_⟩
    · intro p hp hne
      obtain ⟨p, rfl, hrest⟩ := (List.prefix_cons_iff.mp hp).resolve_left hne
      cases p with
      | nil => exact hskipped
      | cons other p =>
        have hrest := hkept (other :: p) hrest (by simp)
        rwa [List.append_assoc] at hrest
    · intro p hp hne hway d hd
      obtain ⟨p, rfl, hrest⟩ := (List.prefix_cons_iff.mp hp).resolve_left hne
      rw [hat hchild] at hd
      cases p with
      | nil =>
        obtain rfl : child = d := Option.some.inj hd
        exact hclosed (by simpa using hway.symm)
      | cons other p => exact hentered _ hrest (by simp) (by simpa using hway) d hd

/-- A walk stops at a file, or at a directory that is closed. -/
def Stops (isClosed : Node → Bool) (ofDirs : Bool) (m : Node) : Prop :=
  m.isDir = ofDirs ∧ (ofDirs = true → isClosed m = true)

private theorem not_mem_walkIn (es : List (String × Node)) :
    place ∉ (walkIn isSkipped isClosed place es).places ofDirs := by
  intro hmem
  obtain ⟨entry, -, q, hq, -⟩ := below_walkIn es place place (Walk.mem_found_of_mem_places hmem)
  simpa using congrArg List.length hq

private theorem mem_walkAt_self :
    place ∈ (walkAt isSkipped isClosed place n).places ofDirs ↔
      isSkipped place = false ∧ Stops isClosed ofDirs n := by
  have hnot : place ∉ (walkIn isSkipped isClosed place n.entries).places ofDirs :=
    not_mem_walkIn n.entries
  rw [walkAt.eq_def]
  cases isSkipped place with
  | true => simp
  | false =>
    cases n with
    | file bytes => cases ofDirs <;> simp [Walk.places, Stops, Node.isDir]
    | dir es =>
      cases hclosed : isClosed (.dir es) <;> cases ofDirs <;>
        simp_all [Walk.places, Stops, Node.isDir, Node.entries]

private theorem mem_walkIn_iff {es : List (String × Node)} {p : Path} :
    p ∈ (walkIn isSkipped isClosed place es).places ofDirs ↔
      ∃ entry ∈ es, p ∈ (walkAt isSkipped isClosed (place ++ [entry.1]) entry.2).places ofDirs := by
  induction es with
  | nil => simp [walkIn]
  | cons entry es ih =>
    obtain ⟨name, n⟩ := entry
    rw [walkIn, Walk.places_append, List.mem_append, ih, List.exists_mem_cons_iff]

/-- What lies on a way is found in the entry of the first name on it, and in no other. -/
theorem mem_walkIn_cons (hn : n.DistinctNames) {name : String} :
    place ++ name :: way ∈ (walkIn isSkipped isClosed place n.entries).places ofDirs ↔
      ∃ child, n.entry? name = some child ∧ place ++ [name] ++ way ∈
        (walkAt isSkipped isClosed (place ++ [name]) child).places ofDirs := by
  have hassoc : place ++ name :: way = place ++ [name] ++ way := by simp
  rw [mem_walkIn_iff, hassoc]
  constructor
  · rintro ⟨⟨other, child⟩, hmem, hp⟩
    obtain ⟨q, hq, -⟩ := below_walkAt _ _ _ (Walk.mem_found_of_mem_places hp)
    obtain rfl : name = other := by simpa using congrArg (·.drop place.length |>.head?) hq
    exact ⟨child, hn.entry?_eq_some_iff.mpr hmem, hp⟩
  · rintro ⟨child, hchild, hp⟩
    exact ⟨(name, child), hn.entry?_eq_some_iff.mp hchild, hp⟩

private theorem mem_walkAt_cons {name : String} :
    place ++ name :: way ∈ (walkAt isSkipped isClosed place n).places ofDirs ↔
      isSkipped place = false ∧ isClosed n = false ∧
        place ++ name :: way ∈ (walkIn isSkipped isClosed place n.entries).places ofDirs := by
  rw [walkAt.eq_def]
  cases isSkipped place with
  | true => simp
  | false =>
    cases n with
    | file bytes => cases ofDirs <;> simp [Walk.places, Node.entries, walkIn]
    | dir es =>
      cases hclosed : isClosed (.dir es) <;> cases ofDirs <;>
        simp [Walk.places, Node.entries, hclosed]

/-- A walk through a directory finds all that ways from there lead to at which it stops. -/
theorem mem_walkIn_iff_reaches (hn : n.DistinctNames) (hway : way ≠ []) :
    place ++ way ∈ (walkIn isSkipped isClosed place n.entries).places ofDirs ↔
      ∃ m, Reaches isSkipped isClosed place n way m ∧ Stops isClosed ofDirs m := by
  induction way generalizing place n with
  | nil => exact absurd rfl hway
  | cons name way ih =>
    have hchild : ∀ child, n.entry? name = some child →
        (place ++ [name] ++ way ∈ (walkAt isSkipped isClosed (place ++ [name]) child).places ofDirs ↔
          isSkipped (place ++ [name]) = false ∧ (way ≠ [] → isClosed child = false) ∧
            ∃ m, Reaches isSkipped isClosed (place ++ [name]) child way m ∧
              Stops isClosed ofDirs m) := by
      intro child hentry
      have hdistinct := hn.entries.2 _ (Node.mem_entries_of_eq_some hentry)
      cases way with
      | nil => simp [mem_walkAt_self, reaches_nil]
      | cons other way => simp only [mem_walkAt_cons, ih hdistinct (List.cons_ne_nil _ _), ne_eq,
          reduceCtorEq, not_false_eq_true, forall_const]
    rw [mem_walkIn_cons hn]
    simp only [reaches_cons]
    constructor
    · rintro ⟨child, hentry, hp⟩
      obtain ⟨hskipped, hclosed, m, hreaches, hstops⟩ := (hchild child hentry).mp hp
      exact ⟨m, ⟨child, hentry, hskipped, hclosed, hreaches⟩, hstops⟩
    · rintro ⟨m, ⟨child, hentry, hskipped, hclosed, hreaches⟩, hstops⟩
      exact ⟨child, hentry, (hchild child hentry).mpr ⟨hskipped, hclosed, m, hreaches, hstops⟩⟩

/-- A way leads to a stop in the sorted tree if it does so in the tree. -/
theorem exists_reaches_sorted (hn : n.DistinctNames) :
    (∃ m, Reaches isSkipped hasConfig place (sorted n) way m ∧ Stops hasConfig ofDirs m) ↔
      ∃ m, Reaches isSkipped hasConfig place n way m ∧ Stops hasConfig ofDirs m := by
  have hstops : ∀ {p d}, n.at? p = some d →
      (Stops hasConfig ofDirs (sorted d) ↔ Stops hasConfig ofDirs d) := by
    intro p d hd
    rw [Stops, Stops, isDir_sorted, hasConfig_sorted (hn.at? hd)]
  have hopen : ∀ p, (∀ d, (sorted n).at? p = some d → hasConfig d = false) ↔
      ∀ d, n.at? p = some d → hasConfig d = false := by
    intro p
    rw [at?_sorted hn]
    cases hp : n.at? p with
    | none => simp
    | some d => simp [hasConfig_sorted (hn.at? hp)]
  constructor
  · rintro ⟨m, ⟨hleads, hkept, hentered⟩, hstop⟩
    rw [at?_sorted hn] at hleads
    obtain ⟨d, hd, rfl⟩ := Option.map_eq_some_iff.mp hleads
    refine ⟨d, ⟨hd, hkept, fun p hp hne hproper => ?_⟩, (hstops hd).mp hstop⟩
    exact (hopen p).mp (hentered p hp hne hproper)
  · rintro ⟨d, ⟨hd, hkept, hentered⟩, hstop⟩
    refine ⟨sorted d, ⟨?_, hkept, fun p hp hne hproper => ?_⟩, (hstops hd).mpr hstop⟩
    · rw [at?_sorted hn, hd, Option.map_some]
    · exact (hopen p).mpr (hentered p hp hne hproper)

end Reached

section Order

variable {isSkipped : Path → Bool} {isClosed : Node → Bool} {ofDirs : Bool}

private theorem lt_of_names (place p q : Path) {name other : String} (h : name < other) :
    place ++ [name] ++ p < place ++ [other] ++ q := by
  rw [List.append_assoc, List.append_assoc]
  exact List.append_left_lt (List.cons_lt_cons_iff.mpr (.inl h))

mutual

private theorem pairwise_walkAt : ∀ (n : Node) (place : Path), InOrder n →
    ((walkAt isSkipped isClosed place n).places ofDirs).Pairwise (· < ·)
  | .file bytes, place, _ => by
    rw [walkAt]
    split
    · simp
    · cases ofDirs <;> simp [Walk.places]
  | .dir es, place, ⟨hnames, hentries⟩ => by
    rw [walkAt]
    split
    · simp
    · split
      · cases ofDirs <;> simp [Walk.places]
      · exact pairwise_walkIn es place hnames hentries

private theorem pairwise_walkIn : ∀ (es : List (String × Node)) (place : Path),
    (es.map (·.1)).Pairwise (· < ·) → InOrderIn es →
      ((walkIn isSkipped isClosed place es).places ofDirs).Pairwise (· < ·)
  | [], place, _, _ => by simp [walkIn]
  | (name, n) :: es, place, hnames, ⟨hn, hes⟩ => by
    obtain ⟨hname, hrest⟩ := List.pairwise_cons.mp hnames
    rw [walkIn, Walk.places_append, List.pairwise_append]
    refine ⟨pairwise_walkAt n _ hn, pairwise_walkIn es place hrest hes, ?_⟩
    intro p hp q hq
    obtain ⟨way, rfl, -⟩ := below_walkAt n _ p (Walk.mem_found_of_mem_places hp)
    obtain ⟨entry, hentry, way', rfl, -⟩ := below_walkIn es place q (Walk.mem_found_of_mem_places hq)
    exact lt_of_names place way way' (hname entry.1 (List.mem_map_of_mem hentry))

end

end Order

section Collect

variable {tree : Node} {start way : Path} {extensions ignored : List String} {ofDirs : Bool}

/-- Neither a place below a directory nor a directory on the way there is ignored. -/
def IsKept (ignored : List String) (way : Path) : Prop :=
  ∀ p, p <+: way → p ≠ [] → Ignore.isIgnored ignored (joinNames p) = false

/-- No directory strictly between a directory and a place below it has a configuration of its own. -/
def IsUnconfigured (tree : Node) (start way : Path) : Prop :=
  ∀ p, p <+: way → p ≠ [] → p ≠ way →
    tree.isFileAt (start ++ p ++ [ScanConfig.fileName]) = false

/-- There is a file below a directory, with one of the extensions. -/
structure IsWanted (tree : Node) (start : Path) (extensions : List String) (way : Path) : Prop where
  below : way ≠ []
  file : tree.isFileAt (start ++ way) = true
  extension : extensionOf way.name ∈ extensions.map normalExtension

/-- There is a directory below another one, with a configuration of its own. -/
structure IsConfigured (tree : Node) (start way : Path) : Prop where
  below : way ≠ []
  dir : tree.isDirAt (start ++ way) = true
  config : tree.isFileAt (start ++ way ++ [ScanConfig.fileName]) = true

private theorem isUnconfigured_iff {n : Node} (hstart : tree.at? start = some n) :
    IsUnconfigured tree start way ↔ ∀ p, p <+: way → p ≠ [] → p ≠ way →
      ∀ d, n.at? p = some d → hasConfig d = false := by
  refine forall₄_congr fun p _ _ _ => ?_
  rw [Node.isFileAt_append, Node.at?_append, hstart, Option.bind_some]
  cases n.at? p with
  | none => simp
  | some d =>
    rw [Option.any_some, ← hasConfig]
    simp

private theorem mem_places_walk (htree : tree.DistinctNames) :
    way ∈ (walk tree start ignored hasConfig).places ofDirs ↔
      way ≠ [] ∧ IsKept ignored way ∧ IsUnconfigured tree start way ∧
        ∃ m, tree.at? (start ++ way) = some m ∧ Stops hasConfig ofDirs m := by
  rw [walk]
  cases hstart : tree.at? start with
  | none => simp [Node.at?_append, hstart]
  | some n =>
    have hn := htree.at? hstart
    let isSkipped := fun p => Ignore.isIgnored ignored (joinNames p)
    change way ∈ (walkIn isSkipped hasConfig [] (sorted n).entries).places ofDirs ↔ _
    by_cases hway : way = []
    · have hnot : [] ∉ (walkIn isSkipped hasConfig [] (sorted n).entries).places ofDirs :=
        not_mem_walkIn _
      simp [hway, hnot]
    · rw [← List.nil_append way, mem_walkIn_iff_reaches (distinctNames_sorted n hn) hway,
        exists_reaches_sorted hn, List.nil_append, isUnconfigured_iff hstart, Node.at?_append, hstart,
        Option.bind_some]
      constructor
      · rintro ⟨m, ⟨hleads, hkept, hentered⟩, hstops⟩
        exact ⟨hway, hkept, hentered, m, hleads, hstops⟩
      · rintro ⟨-, hkept, hentered, m, hleads, hstops⟩
        exact ⟨m, ⟨hleads, hkept, hentered⟩, hstops⟩

private theorem pairwise_places_walk (htree : tree.DistinctNames) :
    ((walk tree start ignored hasConfig).places ofDirs).Pairwise (· < ·) := by
  rw [walk]
  cases hstart : tree.at? start with
  | none => simp
  | some n =>
    have hsorted := inOrder_sorted n (htree.at? hstart)
    dsimp only
    cases n with
    | file bytes => simp [sorted, Node.entries, walkIn]
    | dir es =>
      rw [sorted] at hsorted ⊢
      exact pairwise_walkIn _ _ hsorted.1 hsorted.2

theorem mem_files_iff (htree : tree.DistinctNames) :
    way ∈ (walk tree start ignored hasConfig).files.filter
        (fun p => (extensions.map normalExtension).contains (extensionOf p.name)) ↔
      IsWanted tree start extensions way ∧ IsKept ignored way ∧ IsUnconfigured tree start way := by
  have hfile : (∃ m, tree.at? (start ++ way) = some m ∧ Stops hasConfig false m) ↔
      tree.isFileAt (start ++ way) = true := by
    unfold Node.isFileAt
    rcases tree.at? (start ++ way) with _ | ⟨_ | _⟩ <;> simp [Stops, Node.isDir]
  have hfound : way ∈ (walk tree start ignored hasConfig).places false ↔ _ := mem_places_walk htree
  rw [hfile, Walk.places] at hfound
  rw [List.mem_filter, hfound, List.contains_iff_mem]
  constructor
  · rintro ⟨⟨hway, hkept, hopen, hfile⟩, hextension⟩
    exact ⟨⟨hway, hfile, hextension⟩, hkept, hopen⟩
  · rintro ⟨⟨hway, hfile, hextension⟩, hkept, hopen⟩
    exact ⟨⟨hway, hkept, hopen, hfile⟩, hextension⟩

private theorem mem_closed_iff (htree : tree.DistinctNames) :
    way ∈ (walk tree start ignored hasConfig).closed ↔
      IsConfigured tree start way ∧ IsKept ignored way ∧ IsUnconfigured tree start way := by
  have hdir : (∃ m, tree.at? (start ++ way) = some m ∧ Stops hasConfig true m) ↔
      tree.isDirAt (start ++ way) = true ∧
        tree.isFileAt (start ++ way ++ [ScanConfig.fileName]) = true := by
    rw [Node.isFileAt_append]
    unfold Node.isDirAt
    rcases tree.at? (start ++ way) with _ | ⟨_ | _⟩ <;> simp [Stops, Node.isDir, hasConfig]
  have hfound : way ∈ (walk tree start ignored hasConfig).places true ↔ _ := mem_places_walk htree
  rw [hdir, Walk.places] at hfound
  rw [hfound]
  constructor
  · rintro ⟨hway, hkept, hopen, hdir, hconfig⟩
    exact ⟨⟨hway, hdir, hconfig⟩, hkept, hopen⟩
  · rintro ⟨⟨hway, hdir, hconfig⟩, hkept, hopen⟩
    exact ⟨hway, hkept, hopen, hdir, hconfig⟩

private theorem isConfigured_of_isFileAt {p : Path} (hp : p ≠ [])
    (hconfig : tree.isFileAt (start ++ p ++ [ScanConfig.fileName]) = true) :
    IsConfigured tree start p := by
  refine ⟨hp, ?_, hconfig⟩
  rw [Node.isFileAt_append, Option.any_eq_true] at hconfig
  obtain ⟨n, hn, hconfig⟩ := hconfig
  cases n with
  | file bytes => cases hconfig
  | dir es => rw [Node.isDirAt, hn]

private theorem exists_configured (h : ¬ IsUnconfigured tree start way) :
    ∃ d, d <+: way ∧ d ≠ way ∧ IsConfigured tree start d := by
  simp only [IsUnconfigured, not_forall, Bool.not_eq_false] at h
  obtain ⟨d, hd, hne, hproper, hconfig⟩ := h
  exact ⟨d, hd, hproper, isConfigured_of_isFileAt hne hconfig⟩

/-- On the way to a directory with a configuration of its own, there is a first one. -/
theorem exists_first_configured (p : Path) (hp : IsConfigured tree start p) :
    ∃ d, d <+: p ∧ IsConfigured tree start d ∧ IsUnconfigured tree start d := by
  induction hlength : p.length using Nat.strong_induction_on generalizing p with
  | _ k ih =>
    by_cases hopen : IsUnconfigured tree start p
    · exact ⟨p, List.prefix_rfl, hp, hopen⟩
    · obtain ⟨q, hq, hproper, hconfigured⟩ := exists_configured hopen
      have hshorter : q.length < k := by
        rw [← hlength]
        exact lt_of_le_of_ne hq.length_le fun heq => hproper (hq.eq_of_length heq)
      obtain ⟨d, hd, hfirst⟩ := ih q.length hshorter q hconfigured rfl
      exact ⟨d, hd.trans hq, hfirst⟩

private theorem IsKept.above {p : Path} (h : IsKept ignored way) (hp : p <+: way) :
    IsKept ignored p :=
  fun q hq => h q (hq.trans hp)

/-- If no directory in between has a configuration of its own, one on the way that has is its end. -/
theorem IsUnconfigured.eq_of_prefix {d : Path} (h : IsUnconfigured tree start way)
    (hd : IsConfigured tree start d) (hbelow : d <+: way) : d = way := by
  by_contra hne
  have hnone := h d hbelow hd.below hne
  rw [hd.config] at hnone
  cases hnone

private theorem eq_of_first_configured {d d' : Path} (hbelow : d <+: way) (hbelow' : d' <+: way)
    (hd : IsConfigured tree start d) (hfirst : IsUnconfigured tree start d)
    (hd' : IsConfigured tree start d') (hfirst' : IsUnconfigured tree start d') : d = d' := by
  rcases List.prefix_or_prefix_of_prefix hbelow hbelow' with hle | hle
  · exact hfirst'.eq_of_prefix hd hle
  · exact (hfirst.eq_of_prefix hd' hle).symm

private theorem IsWanted.not_isConfigured (h : IsWanted tree start extensions way) :
    ¬ IsConfigured tree start way := by
  intro hconfigured
  have hfile := h.file
  have hdir := hconfigured.dir
  cases hn : tree.at? (start ++ way) with
  | none => simp [Node.isFileAt, hn] at hfile
  | some n =>
    cases n with
    | file bytes => simp [Node.isDirAt, hn] at hdir
    | dir es => simp [Node.isFileAt, hn] at hfile

/-- A plan shares out a tree. Its files are those with a wanted extension and its sub-scans the
directories with a configuration of their own, as far as nothing on the way is ignored and no
directory in between has a configuration of its own. Both are in the order of their ways, name by
name. So a wanted file that is not ignored is in the plan, or it lies in exactly one sub-scan. -/
theorem collect_partition (htree : tree.DistinctNames) (start : Path)
    (extensions ignored : List String) :
    ∃ files subScans : List Path,
      collect tree start extensions ignored =
        ⟨files.map (start ++ ·), subScans.map (start ++ ·)⟩ ∧
      (∀ way, way ∈ files ↔ IsWanted tree start extensions way ∧ IsKept ignored way ∧
        IsUnconfigured tree start way) ∧
      (∀ way, way ∈ subScans ↔ IsConfigured tree start way ∧ IsKept ignored way ∧
        IsUnconfigured tree start way) ∧
      files.Pairwise (· < ·) ∧ subScans.Pairwise (· < ·) ∧
      ∀ way, IsWanted tree start extensions way → IsKept ignored way →
        (way ∈ files ∧ ∀ d ∈ subScans, ¬ d <+: way) ∨
          (way ∉ files ∧ ∃! d, d ∈ subScans ∧ d <+: way) := by
  let found := walk tree start ignored hasConfig
  let wanted := extensions.map normalExtension
  let files := found.files.filter fun p => wanted.contains (extensionOf p.name)
  have hfiles : ∀ way, way ∈ files ↔ _ := fun way => mem_files_iff htree
  have hsubScans : ∀ way, way ∈ found.closed ↔ _ := fun way => mem_closed_iff htree
  have horder : ∀ ofDirs, (found.places ofDirs).Pairwise (· < ·) :=
    fun _ => pairwise_places_walk htree
  refine ⟨files, found.closed, rfl, hfiles, hsubScans, (horder false).filter _, horder true, ?_⟩
  intro way hwanted hkept
  by_cases hopen : IsUnconfigured tree start way
  · refine .inl ⟨(hfiles way).mpr ⟨hwanted, hkept, hopen⟩, fun d hd hbelow => ?_⟩
    obtain ⟨hconfigured, -, -⟩ := (hsubScans d).mp hd
    obtain rfl : d = way := hopen.eq_of_prefix hconfigured hbelow
    exact hwanted.not_isConfigured hconfigured
  · refine .inr ⟨fun hfile => hopen ((hfiles way).mp hfile).2.2, ?_⟩
    obtain ⟨p, hp, -, hconfigured⟩ := exists_configured hopen
    obtain ⟨d, hd, hconfigured, hfirst⟩ := exists_first_configured p hconfigured
    have hbelow := hd.trans hp
    refine ⟨d, ⟨(hsubScans d).mpr ⟨hconfigured, hkept.above hbelow, hfirst⟩, hbelow⟩, ?_⟩
    rintro d' ⟨hd', hbelow'⟩
    obtain ⟨hconfigured', -, hfirst'⟩ := (hsubScans d').mp hd'
    exact eq_of_first_configured hbelow' hbelow hconfigured' hfirst' hconfigured hfirst

end Collect

private def sharedTree : Node :=
  .dir [("b.ts", .file []), ("a.ts", .file []),
    ("a-b", .dir [("dry-scan.toml", .file []), ("y.ts", .file [])]),
    ("out", .dir [("z.ts", .file [])]),
    ("a", .dir [("x.TS", .file []), ("x.md", .file [])])]

/-- A file below a directory with a configuration of its own is left to one other scan. -/
theorem collect_partition_shared :
    sharedTree.DistinctNames ∧
      collect sharedTree [] [".ts"] ["out/"] =
        ⟨[["a", "x.TS"], ["a.ts"], ["b.ts"]], [["a-b"]]⟩ ∧
      ∃! d, d ∈ (collect sharedTree [] [".ts"] ["out/"]).subScans ∧ d <+: ["a-b", "y.ts"] := by
  have htree : sharedTree.DistinctNames := by
    simp [sharedTree, Node.DistinctNames, Node.DistinctNamesIn]
  have hplan : collect sharedTree [] [".ts"] ["out/"] =
      ⟨[["a", "x.TS"], ["a.ts"], ["b.ts"]], [["a-b"]]⟩ := by decide +kernel
  have hwanted : IsWanted sharedTree [] [".ts"] ["a-b", "y.ts"] :=
    ⟨by decide, by decide, by decide +kernel⟩
  have hkept : IsKept ["out/"] ["a-b", "y.ts"] := by
    intro p hp hne
    have hinit : p ∈ [[], ["a-b"], ["a-b", "y.ts"]] := (List.mem_inits p ["a-b", "y.ts"]).mpr hp
    simp only [List.mem_cons, List.not_mem_nil, or_false, hne, false_or] at hinit
    rcases hinit with rfl | rfl <;> decide +kernel
  obtain ⟨files, subScans, hparts, -, -, -, -, hshared⟩ :=
    collect_partition htree [] [".ts"] ["out/"]
  simp only [List.nil_append, List.map_id'] at hparts
  refine ⟨htree, hplan, ?_⟩
  rcases hshared ["a-b", "y.ts"] hwanted hkept with ⟨hfile, -⟩ | ⟨-, hsubScan⟩
  · obtain ⟨rfl, -⟩ := Plan.mk.inj (hparts.symm.trans hplan)
    exact absurd hfile (by decide)
  · rw [hparts]
    exact hsubScan

end CodeTwins.Scan
