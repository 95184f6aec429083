import CodeTwins.Proofs.Config.Layers
import CodeTwins.Proofs.Unicode.LetterCase
import CodeTwins.Scan.SourceFile

/-!
# Patterns that files are read with

The patterns for an extension come from a group of the configuration, from its languages, from the
registered language, or they are those that are looked for everywhere. Of these, a configuration that has
been checked brings only patterns that can be read, and the built-in ones can be read as well. So no file
is left without elements because of a pattern.
-/
namespace CodeTwins

/-- A text that is a pattern. -/
def Compiles (p : String) : Prop :=
  ∃ pattern, SignaturePattern.compile p = .ok pattern

/-- All patterns of the registered languages can be read. -/
def Registry.Readable (r : Registry) : Prop :=
  ∀ entry ∈ r.entries, ∀ p ∈ entry.2.includes ++ entry.2.excludes, Compiles p

private theorem Registry.readable_builtIn : Registry.builtIn.Readable := by
  intro entry hentry p hp
  exact isOk_iff_exists.mp
    (ScanConfig.compiles_builtIn entry.2 (ScanConfig.mem_builtIn_of_mem_entries entry hentry) p hp)

private theorem compiles_of_mem_fallback {p : String} (hp : p ∈ Language.fallback) : Compiles p := by
  have hmem : ∀ p ∈ Language.fallback, p ∈ Language.javascript.includes := by decide
  exact isOk_iff_exists.mp
    (ScanConfig.compiles_builtIn Language.javascript (.head _) p (List.mem_append_left _ (hmem p hp)))

private theorem Registry.Readable.of_find? {r : Registry} (hr : r.Readable) {ext : String}
    {language : Language} (h : r.find? ext = some language) :
    ∀ p ∈ language.includes ++ language.excludes, Compiles p := by
  obtain ⟨entry, hentry, rfl⟩ := Option.map_eq_some_iff.mp h
  exact hr entry (List.mem_of_find?_eq_some hentry)

private theorem exists_compileAll_iff {sources : List String} :
    (∃ patterns, SignaturePattern.compileAll sources = .ok patterns) ↔ ∀ p ∈ sources, Compiles p :=
  exists_mapM_ok_iff

namespace ScanConfig

variable {c : ScanConfig} {r : Registry}

/-- Wherever the patterns for an extension come from, they have been checked or are built in. -/
theorem compiles_patternsFor (hc : ∀ p ∈ c.patterns, Compiles p) (hr : r.Readable) (ext : String) :
    ∀ p ∈ (c.patternsFor r ext).1 ++ (c.patternsFor r ext).2, Compiles p := by
  have hgroup : ∀ g ∈ c.groups, ∀ p ∈ g.includes ++ g.excludes, Compiles p := fun g hg p hp =>
    hc p (List.mem_append_right _ (List.mem_flatMap.mpr ⟨g, hg, hp⟩))
  have hlanguage : ∀ l ∈ c.languages, ∀ p ∈ l.2, Compiles p := fun l hl p hp =>
    hc p (List.mem_append_left _ (List.mem_flatMap.mpr ⟨l, hl, hp⟩))
  simp only [patternsFor]
  cases hfind : c.groups.find? (·.extensions.contains (normalExtension ext)) with
  | some group => exact hgroup group (List.mem_of_find?_eq_some hfind)
  | none =>
    cases hset : c.language? (normalExtension ext) with
    | some includes =>
      obtain ⟨l, hl, rfl⟩ := Option.map_eq_some_iff.mp hset
      refine List.forall_mem_append.mpr ⟨hlanguage l (List.mem_of_find?_eq_some hl), ?_⟩
      cases hknown : r.find? (normalExtension ext) with
      | none => exact nofun
      | some language => exact (List.forall_mem_append.mp (hr.of_find? hknown)).2
    | none =>
      cases hknown : r.find? (normalExtension ext) with
      | none => exact fun p hp => compiles_of_mem_fallback (by simpa using hp)
      | some language => exact hr.of_find? hknown

private theorem patternsFor_congr {ext ext' : String} (h : SameExtension ext ext') :
    c.patternsFor r ext = c.patternsFor r ext' := by
  unfold patternsFor
  rw [normalExtension_eq_of_same h]

end ScanConfig

namespace Extraction

private theorem extract_of_compiles {includes excludes : List String}
    (h : ∀ p ∈ includes ++ excludes, Compiles p) (text : String) (origin : Origin) :
    ∃ es, extract text includes excludes origin = .ok es := by
  obtain ⟨hincludes, hexcludes⟩ := List.forall_mem_append.mp h
  obtain ⟨ps, hps⟩ := exists_compileAll_iff.mpr hincludes
  obtain ⟨qs, hqs⟩ := exists_compileAll_iff.mpr hexcludes
  exact ⟨elements text.toList ps qs origin, by rw [extract, hps, ok_bind, hqs]; rfl⟩

end Extraction

namespace SourceFile

open Files

/-- The patterns can be read, so a file has elements if it can be read itself. -/
theorem scan_of_compiles {r : Registry} {c : ScanConfig} {path : Path} {asked : Option String}
    (h : ∀ p ∈ (patternsFor c r path asked).1 ++ (patternsFor c r path asked).2, Compiles p)
    (tree : Node) (directory : Path) (commit : Option String) :
    (∃ fault, tree.read path = .error fault ∧
      scan r c tree directory path asked commit = .error (.file fault)) ∨
    ∃ bytes es, tree.read path = .ok bytes ∧
      scan r c tree directory path asked commit = .ok es := by
  cases hread : tree.read path with
  | error fault => exact .inl ⟨fault, rfl, by rw [scan, hread]; rfl⟩
  | ok bytes =>
    obtain ⟨es, hes⟩ := Extraction.extract_of_compiles h (textOf bytes)
      { filePath := shownBelow directory path
        fileHash := some (Sha256.hex bytes)
        commitHash := commit
        basePath := some directory.text }
    refine .inr ⟨bytes, es, rfl, ?_⟩
    simp only [scan, extract, hread]
    exact congrArg (Except.mapError Failure.pattern) hes

end SourceFile

namespace ScanConfig

open Files

end ScanConfig

end CodeTwins
