import CodeTwins.Config.Layers
import CodeTwins.Proofs.Traversal

/-!
# Usable configurations

The configuration of a place is checked before anything is done with it. The one without a file is
usable for the languages that are built in, with any limit that is at least one.
-/
namespace CodeTwins

namespace ScanConfig

/-- What is usable: the ranges are kept, and the action for too many results is a known one. -/
structure Usable (c : ScanConfig) : Prop where
  threshold : c.threshold.isWithinUnit = true
  limit : 1 ≤ c.limit
  onExceed : ∃ action ∈ exceedActions, c.onExceed = .str action

private theorem usable_of_validate {c c' : ScanConfig} (h : c.validate = .ok c') : c'.Usable := by
  unfold validate at h
  split at h
  · cases h
  case isFalse hthreshold =>
    split at h
    · cases h
    case isFalse hlimit =>
      split at h
      · cases h
      case isFalse haction =>
        split at h
        · cases h
        · cases h
          refine ⟨by simpa using hthreshold, by omega, ?_⟩
          cases haction' : c.onExceed with
          | str action => exact ⟨action, by simpa [haction', isExceedAction] using haction, rfl⟩
          | _ => simp [haction', isExceedAction] at haction

private theorem eq_of_validate {c c' : ScanConfig} (h : c.validate = .ok c') : c' = c := by
  unfold validate at h
  repeat' split at h
  all_goals cases h
  rfl

/-- A configuration is checked before it is used. -/
theorem validate_of_resolve {r : Registry} {tree : Files.Node} {start : Files.Path} {o : Overrides}
    {config : ScanConfig} (h : resolve r tree start o = .ok config) :
    config.validate = .ok config := by
  have hchecked : ∃ base : ScanConfig,
      ((base.override o).validate).mapError Unresolved.invalid = .ok config := by
    simp only [resolve] at h
    cases hfile : findFile tree start with
    | none =>
      simp only [hfile] at h
      exact ⟨_, h⟩
    | some path =>
      simp only [hfile] at h
      cases hload : load r tree path with
      | error m =>
        rw [hload] at h
        cases h
      | ok base =>
        rw [hload] at h
        exact ⟨base, h⟩
  obtain ⟨base, hbase⟩ := hchecked
  have hvalid := mapError_eq_ok_iff.mp hbase
  rw [← eq_of_validate hvalid] at hvalid
  exact hvalid

theorem usable_of_resolve {r : Registry} {tree : Files.Node} {start : Files.Path} {o : Overrides}
    {config : ScanConfig} (h : resolve r tree start o = .ok config) : config.Usable :=
  usable_of_validate (validate_of_resolve h)

private theorem validate_of_usable {c : ScanConfig} (h : c.Usable)
    (hpatterns : (SignaturePattern.compileAll c.patterns).isOk = true) : c.validate = .ok c := by
  obtain ⟨hthreshold, hlimit, action, haction, hexceed⟩ := h
  have hknown : isExceedAction c.onExceed = true := by
    simpa [hexceed, isExceedAction] using haction
  have hleast : ¬ c.limit < 1 := by omega
  unfold validate
  simp only [hthreshold, hknown, hleast, Bool.not_true, Bool.false_eq_true, if_false]
  split
  case h_1 hbad => simp [hbad, Except.isOk, Except.toBool] at hpatterns
  case h_2 => rfl

/-- Where there is no file, the defaults count, below what the user asks for. -/
theorem resolve_default {r : Registry} {tree : Files.Node} {start : Files.Path} {o : Overrides}
    (hfile : findFile tree start = none) (husable : ((default r).override o).Usable)
    (hpatterns : (SignaturePattern.compileAll (default r).patterns).isOk = true) :
    resolve r tree start o = .ok ((default r).override o) := by
  have hvalid : ((default r).override o).validate = .ok ((default r).override o) :=
    validate_of_usable husable hpatterns
  simp only [resolve, hfile, bind, Except.bind, hvalid, Except.mapError]

/-- The patterns of the configuration without a file are those of the registered languages. -/
theorem patterns_default {r : Registry} {p : String} (hp : p ∈ (default r).patterns) :
    ∃ entry ∈ r.entries, p ∈ entry.2.includes := by
  simp only [patterns, default, Registry.includes, Registry.sorted, List.flatMap_nil,
    List.append_nil, List.mem_flatMap, List.mem_map, List.mem_mergeSort] at hp
  obtain ⟨_, ⟨entry, hentry, rfl⟩, hp⟩ := hp
  exact ⟨entry, hentry, hp⟩

theorem compiles_builtIn : ∀ language ∈ Language.builtIn,
    ∀ p ∈ language.includes ++ language.excludes, (SignaturePattern.compile p).isOk = true := by
  simp only [Language.builtIn, List.forall_mem_cons]
  -- one language at a time, since reading the patterns of all of them at once takes much memory
  and_intros
  all_goals decide +kernel

theorem mem_builtIn_of_mem_entries :
    ∀ entry ∈ Registry.builtIn.entries, entry.2 ∈ Language.builtIn := by
  decide +kernel

theorem isOk_patterns_builtIn :
    (SignaturePattern.compileAll (default Registry.builtIn).patterns).isOk = true := by
  refine isOk_mapM_iff.mpr fun p hp => ?_
  obtain ⟨entry, hentry, hmem⟩ := patterns_default hp
  exact compiles_builtIn entry.2 (mem_builtIn_of_mem_entries entry hentry) p
    (List.mem_append_left _ hmem)

/-- Any limit that is at least one is usable with the defaults. -/
theorem usable_limit {n : Int} (hn : 1 ≤ n) (r : Registry) {action : Option String}
    (haction : ∀ a ∈ action, a ∈ exceedActions) :
    ((default r).override { limit := some n, onExceed := action }).Usable where
  threshold := show (Number.real 0.8).isWithinUnit = true by decide +kernel
  limit := hn
  onExceed := by
    cases action with
    | none => exact ⟨"warn", by decide, rfl⟩
    | some a => exact ⟨a, haction a rfl, rfl⟩

end ScanConfig

end CodeTwins
