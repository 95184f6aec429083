import CodeTwins.Config.Layers
import Mathlib.Data.List.Basic

/-!
# The nearest configuration file

A configuration file is looked for in a directory and in all above it, and the nearest one counts.
-/
namespace CodeTwins.ScanConfig

open Files

/-- The directory in which the search for a file begins: that of a file, or else the place itself. -/
def placeOf (tree : Node) (start : Path) : Path :=
  if tree.isFileAt start then start.parent else start

/-- The nearest configuration file at or above a place, if there is one. -/
def IsNearest (tree : Node) (start : Path) : Option Path → Prop
  | none => ∀ above, above <+: placeOf tree start → tree.isFileAt (above ++ [fileName]) = false
  | some path => ∃ above, above <+: placeOf tree start ∧ path = above ++ [fileName] ∧
      tree.isFileAt path = true ∧
      ∀ nearer, above <+: nearer → nearer <+: placeOf tree start → nearer ≠ above →
        tree.isFileAt (nearer ++ [fileName]) = false

private theorem mem_upwards {place above : Path} : above ∈ upwards place ↔ above <+: place := by
  induction place generalizing above with
  | nil => simp [upwards]
  | cons name rest ih =>
    rw [List.prefix_cons_iff]
    simp [upwards, ih, or_comm, eq_comm, and_comm]

/-- Of the places above one, the nearest come first. -/
theorem nearest_of_find?_upwards {place above : Path} {p : Path → Bool}
    (h : (upwards place).find? p = some above) :
    ∀ nearer, above <+: nearer → nearer <+: place → nearer ≠ above → p nearer = false := by
  induction place generalizing above p with
  | nil =>
    intro nearer hle hplace hne
    have habove : above = [] := by simpa [upwards] using List.mem_of_find?_eq_some h
    exact absurd (List.prefix_nil.mp hplace) (habove ▸ hne)
  | cons name rest ih =>
    intro nearer hle hplace hne
    rw [upwards, List.find?_append, List.find?_map] at h
    cases hrest : (upwards rest).find? (p ∘ (name :: ·)) with
    | some below =>
      rw [hrest, Option.map_some, Option.some_or] at h
      obtain rfl := Option.some.inj h
      cases nearer with
      | nil => cases List.prefix_nil.mp hle
      | cons name' nearer =>
        obtain ⟨rfl, hbelow⟩ := List.cons_prefix_cons.mp hle
        exact ih hrest nearer hbelow (List.cons_prefix_cons.mp hplace).2 fun heq => hne (heq ▸ rfl)
    | none =>
      rw [hrest, Option.map_none, Option.none_or] at h
      have habove : above = [] := by simpa using List.mem_of_find?_eq_some h
      cases nearer with
      | nil => exact absurd habove.symm hne
      | cons name' nearer =>
        obtain ⟨rfl, hmem⟩ := List.cons_prefix_cons.mp hplace
        simpa using List.find?_eq_none.mp hrest nearer (mem_upwards.mpr hmem)

private theorem isNearest_findFile (tree : Node) (start : Path) :
    IsNearest tree start (findFile tree start) := by
  change IsNearest tree start
    (((upwards (placeOf tree start)).map (· ++ [fileName])).find? tree.isFileAt)
  rw [List.find?_map]
  cases hfind : (upwards (placeOf tree start)).find? (tree.isFileAt ∘ (· ++ [fileName])) with
  | none =>
    intro above habove
    simpa using List.find?_eq_none.mp hfind above (mem_upwards.mpr habove)
  | some above =>
    have hfile := List.find?_some hfind
    exact ⟨above, mem_upwards.mp (List.mem_of_find?_eq_some hfind), rfl, hfile,
      nearest_of_find?_upwards hfind⟩

/-- There is no second nearest file: of two places above one, either is above the other. -/
theorem IsNearest.unique {tree : Node} {start : Path} {file file' : Option Path}
    (h : IsNearest tree start file) (h' : IsNearest tree start file') : file = file' := by
  cases file with
  | none =>
    cases file' with
    | none => rfl
    | some path' =>
      obtain ⟨above', hplace', rfl, hfile', -⟩ := h'
      exact absurd hfile' (by simp [h above' hplace'])
  | some path =>
    obtain ⟨above, hplace, rfl, hfile, hnearest⟩ := h
    cases file' with
    | none => exact absurd hfile (by simp [h' above hplace])
    | some path' =>
      obtain ⟨above', hplace', rfl, hfile', hnearest'⟩ := h'
      by_cases heq : above = above'
      · rw [heq]
      · rcases List.prefix_or_prefix_of_prefix hplace hplace' with hle | hle
        · exact absurd hfile' (by simp [hnearest above' hle hplace' (Ne.symm heq)])
        · exact absurd hfile (by simp [hnearest' above hle hplace heq])

/-- The file that is looked for is the nearest. -/
theorem findFile_eq_iff {tree : Node} {start : Path} {file : Option Path} :
    findFile tree start = file ↔ IsNearest tree start file :=
  ⟨fun h => h ▸ isNearest_findFile tree start, (isNearest_findFile tree start).unique⟩

end CodeTwins.ScanConfig
