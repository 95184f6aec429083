import CodeTwins.Files.Tree
import Mathlib.Data.List.Nodup

/-!
# Laws of file trees

Trees whose directories list each name once stay so when a file is written. What lies below a place is
lower than the tree by the length of the way to it.
-/
namespace CodeTwins.Files.Node

mutual

/-- All directories list each name once. -/
def DistinctNames : Node → Prop
  | file _ => True
  | dir es => (es.map (·.1)).Nodup ∧ DistinctNamesIn es

def DistinctNamesIn : List (String × Node) → Prop
  | [] => True
  | (_, n) :: rest => n.DistinctNames ∧ DistinctNamesIn rest

end

theorem distinctNamesIn_iff {es : List (String × Node)} :
    DistinctNamesIn es ↔ ∀ entry ∈ es, entry.2.DistinctNames := by
  induction es with
  | nil => simp [DistinctNamesIn]
  | cons entry es ih =>
    obtain ⟨name, n⟩ := entry
    rw [DistinctNamesIn, ih, List.forall_mem_cons]

theorem mem_entries_of_eq_some {n child : Node} {name : String}
    (h : n.entry? name = some child) : (name, child) ∈ n.entries := by
  obtain ⟨⟨name', child'⟩, hfind, rfl⟩ := Option.map_eq_some_iff.mp h
  have hname : name' = name := by simpa using List.find?_some hfind
  exact hname ▸ List.mem_of_find?_eq_some hfind

theorem at?_cons (n : Node) (name : String) (rest : Path) :
    n.at? (name :: rest) = (n.entry? name).bind (·.at? rest) := by
  rw [at?]
  cases n.entry? name <;> rfl

theorem at?_append (n : Node) (p q : Path) : n.at? (p ++ q) = (n.at? p).bind (·.at? q) := by
  induction p generalizing n with
  | nil => rfl
  | cons name p ih =>
    rw [List.cons_append, at?_cons, at?_cons, Option.bind_assoc]
    congr 1
    funext child
    exact ih child

theorem isFileAt_append (n : Node) (p q : Path) :
    n.isFileAt (p ++ q) = (n.at? p).any (·.isFileAt q) := by
  unfold Node.isFileAt
  rw [Node.at?_append]
  cases n.at? p <;> rfl

section Distinct

variable {n m : Node}

theorem DistinctNames.entries (h : n.DistinctNames) :
    (n.entries.map (·.1)).Nodup ∧ ∀ entry ∈ n.entries, entry.2.DistinctNames := by
  cases n with
  | file bytes => simp [Node.entries]
  | dir es =>
    rw [DistinctNames, distinctNamesIn_iff] at h
    exact h

/-- Where names are distinct, any entry is found by its name. -/
theorem DistinctNames.entry?_eq_some_iff (h : n.DistinctNames) {name : String} :
    n.entry? name = some m ↔ (name, m) ∈ n.entries := by
  refine ⟨mem_entries_of_eq_some, fun hmem => ?_⟩
  cases hentry : n.entry? name with
  | none =>
    unfold entry? at hentry
    rw [Option.map_eq_none_iff, List.find?_eq_none] at hentry
    exact absurd BEq.rfl (hentry _ hmem)
  | some child =>
    have heq := List.inj_on_of_nodup_map h.entries.1 (mem_entries_of_eq_some hentry) hmem rfl
    rw [(Prod.mk.inj heq).2]

theorem DistinctNames.at? (h : n.DistinctNames) {p : Path} (hp : n.at? p = some m) :
    m.DistinctNames := by
  induction p generalizing n with
  | nil => exact Option.some.inj hp ▸ h
  | cons name p ih =>
    rw [at?_cons] at hp
    obtain ⟨child, hchild, hrest⟩ := Option.bind_eq_some_iff.mp hp
    exact ih (h.entries.2 _ (mem_entries_of_eq_some hchild)) hrest

private theorem map_fst_setEntry (name : String) (n : Node) (es : List (String × Node)) :
    (setEntry name n es).map (·.1) =
      if name ∈ es.map (·.1) then es.map (·.1) else es.map (·.1) ++ [name] := by
  induction es with
  | nil => simp [setEntry]
  | cons entry es ih =>
    obtain ⟨other, old⟩ := entry
    rw [setEntry]
    by_cases h : other = name
    · simp [h]
    · rw [if_neg h, List.map_cons, ih]
      by_cases hmem : name ∈ es.map (·.1) <;> simp [hmem, Ne.symm h]

private theorem mem_setEntry {name : String} {es : List (String × Node)} {entry : String × Node}
    (h : entry ∈ setEntry name n es) : entry = (name, n) ∨ entry ∈ es := by
  induction es with
  | nil => exact .inl (List.mem_singleton.mp h)
  | cons first es ih =>
    obtain ⟨other, old⟩ := first
    rw [setEntry] at h
    split at h
    case isTrue hname =>
      rcases List.mem_cons.mp h with rfl | hrest
      · exact .inl (by rw [hname])
      · exact .inr (.tail _ hrest)
    case isFalse =>
      rcases List.mem_cons.mp h with rfl | hrest
      · exact .inr (.head _)
      · exact (ih hrest).imp id (.tail _)

private theorem DistinctNames.insert (h : n.DistinctNames) (hm : m.DistinctNames) (p : Path) :
    (n.insert m p).DistinctNames := by
  induction p generalizing n with
  | nil => exact hm
  | cons name p ih =>
    obtain ⟨hnames, hentries⟩ := h.entries
    have hchild : ((n.entry? name).getD emptyDir).DistinctNames := by
      cases hentry : n.entry? name with
      | none => simp [emptyDir, DistinctNames, DistinctNamesIn]
      | some child => exact hentries _ (mem_entries_of_eq_some hentry)
    rw [Node.insert, DistinctNames, distinctNamesIn_iff]
    constructor
    · rw [map_fst_setEntry]
      split
      case isTrue => exact hnames
      case isFalse hname =>
        refine List.nodup_append.mpr ⟨hnames, by simp, ?_⟩
        intro other hother name' hname' heq
        obtain rfl : name' = name := List.mem_singleton.mp hname'
        exact hname (heq ▸ hother)
    · intro entry hentry
      rcases mem_setEntry hentry with rfl | hold
      · exact ih hchild
      · exact hentries entry hold

theorem DistinctNames.write (h : n.DistinctNames) {p : Path} {bytes : List UInt8}
    (hwrite : n.write p bytes = .ok m) : m.DistinctNames := by
  unfold Node.write at hwrite
  split at hwrite
  · cases hwrite
  · cases hwrite
    exact h.insert (by simp [DistinctNames]) p
  · cases hwrite

end Distinct

section Height

variable {n m : Node}

theorem height_lt_of_mem {es : List (String × Node)} {entry : String × Node} (h : entry ∈ es) :
    entry.2.height < heightIn es := by
  induction es with
  | nil => cases h
  | cons first es ih =>
    obtain ⟨name, child⟩ := first
    rw [heightIn]
    rcases List.mem_cons.mp h with rfl | hrest
    · exact Nat.lt_of_lt_of_le (Nat.lt_succ_self _) (Nat.le_max_left _ _)
    · exact Nat.lt_of_lt_of_le (ih hrest) (Nat.le_max_right _ _)

/-- What lies below a place is lower than the tree by the length of the way. -/
theorem height_add_length_le {p : Path} (hp : n.at? p = some m) :
    m.height + p.length ≤ n.height := by
  induction p generalizing n with
  | nil =>
    obtain rfl : n = m := Option.some.inj hp
    exact Nat.le_refl _
  | cons name p ih =>
    rw [at?_cons] at hp
    obtain ⟨child, hchild, hrest⟩ := Option.bind_eq_some_iff.mp hp
    have hmem := mem_entries_of_eq_some hchild
    have hlower : child.height < n.height := by
      cases n with
      | file bytes => cases hmem
      | dir es =>
        rw [height]
        exact height_lt_of_mem hmem
    have hbelow := ih hrest
    rw [List.length_cons]
    omega

end Height

section Reading

variable {n m : Node}

private theorem find?_setEntry (name : String) (m : Node) (es : List (String × Node)) :
    (setEntry name m es).find? (·.1 == name) = some (name, m) := by
  induction es with
  | nil => simp [setEntry]
  | cons entry es ih =>
    obtain ⟨other, old⟩ := entry
    rw [setEntry]
    split
    case isTrue h => simp [h]
    case isFalse h => rw [List.find?_cons_of_neg (by simpa using h), ih]

private theorem at?_insert (n m : Node) (p : Path) : (n.insert m p).at? p = some m := by
  induction p generalizing n with
  | nil => rfl
  | cons name p ih =>
    rw [Node.insert, at?_cons, entry?, Node.entries, find?_setEntry]
    exact ih _

/-- What has been written to a file is read from it. -/
theorem read_of_write {p : Path} {bytes : List UInt8} (h : n.write p bytes = .ok m) :
    m.read p = .ok bytes := by
  unfold Node.write at h
  split at h
  · cases h
  · cases h
    rw [Node.read, at?_insert]
  · cases h

end Reading

section Listing

private theorem mem_filesIn_iff {es : List (String × Node)} {p : Path} :
    p ∈ filesIn es ↔ ∃ entry ∈ es, ∃ q ∈ entry.2.files, entry.1 :: q = p := by
  induction es with
  | nil => simp [filesIn]
  | cons entry es ih =>
    obtain ⟨name, n⟩ := entry
    rw [filesIn, List.mem_append, List.mem_map, ih, List.exists_mem_cons_iff]

/-- All files of a tree are listed. -/
theorem mem_files_of_isFileAt {n : Node} {p : Path} (h : n.isFileAt p = true) : p ∈ n.files := by
  induction p generalizing n with
  | nil =>
    cases n with
    | file bytes => exact .head _
    | dir es => cases h
  | cons name p ih =>
    have hat := isFileAt_append n [name] p
    rw [List.singleton_append, h, eq_comm, Option.any_eq_true] at hat
    obtain ⟨child, hchild, hfile⟩ := hat
    rw [at?_cons, Option.bind_eq_some_iff] at hchild
    obtain ⟨other, hentry, hother⟩ := hchild
    obtain rfl : other = child := Option.some.inj hother
    cases n with
    | file bytes => cases hentry
    | dir es =>
      rw [files, mem_filesIn_iff]
      exact ⟨_, mem_entries_of_eq_some hentry, p, ih hfile, rfl⟩

end Listing

end CodeTwins.Files.Node
