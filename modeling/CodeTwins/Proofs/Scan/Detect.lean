import CodeTwins.Proofs.Scan.Plan

/-!
# What is detected

A survey comes to all files that nothing on the way to them hides, a scan to those of them that no
other configuration is responsible for. Where there is only one, an extension is detected if and
only if there is something to scan for it, unless it is too long.
-/
namespace CodeTwins.Scan

open Files

section Survey

variable {isSkipped : Path → Bool} {place way : Path} {n : Node}

private theorem mem_surveyIn_iff {es : List (String × Node)} {p : Path} :
    p ∈ surveyIn isSkipped place es ↔ ∃ entry ∈ es, isSkipped (place ++ [entry.1]) = false ∧
      p ∈ surveyAt isSkipped (place ++ [entry.1]) entry.2 := by
  induction es with
  | nil => simp [surveyIn]
  | cons entry es ih =>
    obtain ⟨name, n⟩ := entry
    rw [surveyIn, List.mem_append, ih, List.exists_mem_cons_iff]
    cases isSkipped (place ++ [name]) <;> simp

private theorem mem_surveyAt_iff {p : Path} :
    p ∈ surveyAt isSkipped place n ↔ ∃ entry ∈ n.entries, isSkipped (place ++ [entry.1]) = false ∧
      ((entry.2.isDir = false ∧ p = place ++ [entry.1]) ∨
        p ∈ surveyAt isSkipped (place ++ [entry.1]) entry.2) := by
  cases n with
  | file bytes => simp [surveyAt, Node.entries]
  | dir es =>
    rw [surveyAt, List.mem_append, mem_surveyIn_iff]
    simp only [List.mem_filter, List.mem_map, Node.entries]
    constructor
    · intro h
      rcases h with ⟨⟨entry, ⟨hentry, hfile⟩, rfl⟩, hkept⟩ | ⟨entry, hentry, hkept, hp⟩
      · exact ⟨entry, hentry, by simpa using hkept, .inl ⟨by simpa using hfile, rfl⟩⟩
      · exact ⟨entry, hentry, hkept, .inr hp⟩
    · intro h
      obtain ⟨entry, hentry, hkept, ⟨hfile, rfl⟩ | hp⟩ := h
      · exact .inl ⟨⟨entry, ⟨hentry, by simpa using hfile⟩, rfl⟩, by simpa using hkept⟩
      · exact .inr ⟨entry, hentry, hkept, hp⟩

mutual

private theorem below_surveyAt : ∀ (n : Node) (place : Path),
    ∀ p ∈ surveyAt isSkipped place n, ∃ q, q ≠ [] ∧ p = place ++ q
  | .file bytes, place => fun p hp => nomatch hp
  | .dir es, place => by
    intro p hp
    rw [surveyAt, List.mem_append] at hp
    rcases hp with hp | hp
    · obtain ⟨entry, -, rfl⟩ := List.mem_map.mp (List.mem_filter.mp hp).1
      exact ⟨[entry.1], List.cons_ne_nil _ _, rfl⟩
    · exact below_surveyIn es place p hp

private theorem below_surveyIn : ∀ (es : List (String × Node)) (place : Path),
    ∀ p ∈ surveyIn isSkipped place es, ∃ q, q ≠ [] ∧ p = place ++ q
  | [], place => fun p hp => nomatch hp
  | (name, n) :: es, place => by
    intro p hp
    rw [surveyIn, List.mem_append] at hp
    rcases hp with hp | hp
    · split at hp
      · cases hp
      · obtain ⟨q, -, rfl⟩ := below_surveyAt n (place ++ [name]) p hp
        exact ⟨name :: q, List.cons_ne_nil _ _, by rw [List.append_assoc, List.singleton_append]⟩
    · exact below_surveyIn es place p hp

end

private theorem self_not_mem_surveyAt : place ∉ surveyAt isSkipped place n := by
  intro hmem
  obtain ⟨q, hq, heq⟩ := below_surveyAt n place _ hmem
  exact hq (List.self_eq_append_right.mp heq)

/-- A survey comes to a place by the entry whose name is the first on the way there. -/
theorem mem_surveyAt_cons_iff (hn : n.DistinctNames) {name : String} :
    place ++ name :: way ∈ surveyAt isSkipped place n ↔
      ∃ child, n.entry? name = some child ∧ isSkipped (place ++ [name]) = false ∧
        ((way = [] ∧ child.isDir = false) ∨
          place ++ [name] ++ way ∈ surveyAt isSkipped (place ++ [name]) child) := by
  have hassoc : place ++ name :: way = place ++ [name] ++ way := by simp
  rw [mem_surveyAt_iff]
  constructor
  · intro h
    obtain ⟨⟨other, child⟩, hentry, hkept, hp⟩ := h
    obtain rfl : name = other := by
      rcases hp with ⟨-, hp⟩ | hp
      · exact (by simpa using hp : name = other ∧ way = []).1
      · obtain ⟨q, -, hq⟩ := below_surveyAt _ _ _ hp
        simpa using congrArg (·.drop place.length |>.head?) hq
    refine ⟨child, hn.entry?_eq_some_iff.mpr hentry, hkept, ?_⟩
    rcases hp with ⟨hfile, hp⟩ | hp
    · exact .inl ⟨(by simpa using hp : way = []), hfile⟩
    · exact .inr (hassoc ▸ hp)
  · intro h
    obtain ⟨child, hentry, hkept, hp⟩ := h
    refine ⟨(name, child), Node.mem_entries_of_eq_some hentry, hkept, ?_⟩
    rcases hp with ⟨rfl, hfile⟩ | hp
    · exact .inl ⟨hfile, rfl⟩
    · exact .inr (hassoc ▸ hp)

/-- A survey finds the files that ways lead to on which nothing is skipped. -/
theorem mem_surveyAt_iff_reaches (hn : n.DistinctNames) :
    place ++ way ∈ surveyAt isSkipped place n ↔
      way ≠ [] ∧ ∃ bytes, Reaches isSkipped (fun _ => false) place n way (.file bytes) := by
  induction way generalizing place n with
  | nil =>
    have hnot : place ++ [] ∉ surveyAt isSkipped place n := by
      rw [List.append_nil]
      exact self_not_mem_surveyAt
    simp only [hnot, ne_eq, not_true_eq_false, false_and]
  | cons name way ih =>
    have hchild : ∀ child, n.entry? name = some child →
        ((way = [] ∧ child.isDir = false) ∨
          place ++ [name] ++ way ∈ surveyAt isSkipped (place ++ [name]) child ↔
        ∃ bytes, Reaches isSkipped (fun _ => false) (place ++ [name]) child way (.file bytes)) := by
      intro child hentry
      rw [ih (hn.entries.2 _ (Node.mem_entries_of_eq_some hentry))]
      cases way with
      | nil => cases child <;> simp [reaches_nil, Node.isDir]
      | cons other way => simp
    rw [mem_surveyAt_cons_iff hn]
    simp only [reaches_cons, ne_eq, List.cons_ne_nil, not_false_eq_true, true_and, implies_true]
    constructor
    · intro h
      obtain ⟨child, hentry, hkept, hp⟩ := h
      obtain ⟨bytes, hreaches⟩ := (hchild child hentry).mp hp
      exact ⟨bytes, child, hentry, hkept, hreaches⟩
    · intro h
      obtain ⟨bytes, child, hentry, hkept, hreaches⟩ := h
      exact ⟨child, hentry, hkept, (hchild child hentry).mpr ⟨bytes, hreaches⟩⟩

end Survey

section Detect

variable {tree : Node} {start way : Path} {ignored : List String} {r : Registry} {ext : String}

private theorem mem_survey_iff (htree : tree.DistinctNames) :
    way ∈ survey tree start ignored ↔
      way ≠ [] ∧ tree.isFileAt (start ++ way) = true ∧ IsKept ignored way := by
  rw [survey, Node.isFileAt]
  cases hstart : tree.at? start with
  | none => simp [Node.at?_append, hstart]
  | some n =>
    dsimp only
    rw [← List.nil_append way, mem_surveyAt_iff_reaches (htree.at? hstart), List.nil_append,
      Node.at?_append, hstart, Option.bind_some]
    have hfile : (∃ bytes, Reaches (fun place => Ignore.isIgnored ignored (joinNames place))
        (fun _ => false) [] n way (.file bytes)) ↔
        (∃ bytes, n.at? way = some (.file bytes)) ∧ IsKept ignored way := by
      constructor
      · intro h
        obtain ⟨bytes, hleads, hkept, -⟩ := h
        exact ⟨⟨bytes, hleads⟩, hkept⟩
      · intro h
        obtain ⟨⟨bytes, hleads⟩, hkept⟩ := h
        exact ⟨bytes, hleads, hkept, fun _ _ _ _ _ _ => rfl⟩
    rw [hfile]
    rcases n.at? way with _ | ⟨_ | _⟩ <;> simp

private theorem mem_distinct {texts : List String} {t : String} : t ∈ distinct texts ↔ t ∈ texts := by
  rw [distinct, (List.mergeSort_perm _ _).mem_iff, List.mem_eraseDups]

private theorem nodup_eraseDups (texts : List String) : texts.eraseDups.Nodup := by
  cases texts with
  | nil => exact .nil
  | cons t texts =>
    rw [List.eraseDups_cons, List.nodup_cons]
    constructor
    · simp [List.mem_eraseDups]
    · exact nodup_eraseDups _
termination_by texts.length
decreasing_by
  exact Nat.lt_succ_of_le (List.length_filter_le _ _)

private theorem pairwise_distinct (texts : List String) : (distinct texts).Pairwise (· < ·) := by
  have hnodup : (distinct texts).Nodup :=
    (List.mergeSort_perm _ _).nodup_iff.mpr (nodup_eraseDups texts)
  have htrans : ∀ s t u : String, decide (s ≤ t) = true → decide (t ≤ u) = true →
      decide (s ≤ u) = true := by
    intro s t u hst htu
    exact decide_eq_true ((of_decide_eq_true hst).trans (of_decide_eq_true htu))
  have htotal : ∀ s t : String, (decide (s ≤ t) || decide (t ≤ s)) = true := by
    intro s t
    simpa using le_total s t
  have hsorted : (distinct texts).Pairwise (· ≤ ·) :=
    (List.pairwise_mergeSort htrans htotal texts.eraseDups).imp of_decide_eq_true
  exact (hsorted.and hnodup).imp fun h => lt_of_le_of_ne h.1 h.2

/-- The extensions that a language has, and those that are reported although none has them. -/
def reportable (r : Registry) : List String :=
  r.extensions ++ commonExtensions

private theorem mem_reportable_iff :
    ext ∈ reportable r ↔ ext ∈ r.entries.map (·.1) ++ commonExtensions := by
  have hperm : r.extensions.Perm (r.entries.map (·.1)) := (List.mergeSort_perm _ _).map _
  rw [reportable, List.mem_append, List.mem_append, hperm.mem_iff]

private theorem mem_detect_iff : ext ∈ detect r tree start ignored ↔
    isShortExtension ext = true ∧ ext ∈ reportable r ∧
      ∃ way ∈ survey tree start ignored, extensionOf way.name = ext := by
  rw [detect, mem_distinct, List.mem_filter, List.mem_map, Bool.and_eq_true, Bool.or_eq_true,
    List.contains_iff_mem, List.contains_iff_mem, reportable, List.mem_append]
  tauto

/-- No directory below another one has a configuration of its own. -/
def IsUndivided (tree : Node) (start : Path) : Prop :=
  ∀ way, way ≠ [] → tree.isFileAt (start ++ way ++ [ScanConfig.fileName]) = false

private theorem isUndivided_of_files (h : ∀ p ∈ tree.files, p.name ≠ ScanConfig.fileName) :
    IsUndivided tree start := by
  intro way _
  rw [← Bool.not_eq_true]
  intro hfile
  exact h _ (Node.mem_files_of_isFileAt hfile) (by simp [Path.name])

/-- Where no directory has a configuration of its own, the survey comes to a file with an extension
if and only if there is one to scan. -/
theorem exists_survey_iff_collect (htree : tree.DistinctNames) (hundivided : IsUndivided tree start)
    (hext : normalExtension ext = ext) :
    (∃ way ∈ survey tree start ignored, extensionOf way.name = ext) ↔
      (collect tree start [ext] ignored).files ≠ [] := by
  have hopen : ∀ way, IsUnconfigured tree start way := fun way p _ hne _ => hundivided p hne
  have hfiles : ∀ way, way ∈ (walk tree start ignored hasConfig).files.filter
      (fun p => ([ext].map normalExtension).contains (extensionOf p.name)) ↔
        IsWanted tree start [ext] way ∧ IsKept ignored way := by
    intro way
    rw [mem_files_iff htree]
    simp only [hopen way, and_true]
  rw [collect, ne_eq, List.map_eq_nil_iff, List.eq_nil_iff_forall_not_mem, not_forall_not]
  simp only [hfiles, mem_survey_iff htree]
  refine exists_congr fun way => ?_
  constructor
  · intro h
    obtain ⟨⟨hway, hfile, hkept⟩, hname⟩ := h
    exact ⟨⟨hway, hfile, by simp [hext, hname]⟩, hkept⟩
  · intro h
    obtain ⟨⟨hway, hfile, hname⟩, hkept⟩ := h
    exact ⟨⟨hway, hfile, hkept⟩, by simpa [hext] using hname⟩

/-- What is detected are the extensions with something to scan, but for those that are too long. -/
theorem mem_detect_iff_collect (htree : tree.DistinctNames) (hundivided : IsUndivided tree start)
    (hreportable : ext ∈ reportable r) (hext : normalExtension ext = ext) :
    ext ∈ detect r tree start ignored ↔
      isShortExtension ext = true ∧ (collect tree start [ext] ignored).files ≠ [] := by
  rw [mem_detect_iff, exists_survey_iff_collect htree hundivided hext]
  simp only [hreportable, true_and]

private theorem reportable_builtIn : ∀ ext ∈ reportable .builtIn,
    normalExtension ext = ext ∧ (isShortExtension ext = true ↔ ext ≠ "swift") := by
  have hknown : ∀ ext ∈ Registry.builtIn.entries.map (·.1) ++ commonExtensions,
      normalExtension ext = ext ∧ (isShortExtension ext = true ↔ ext ≠ "swift") := by
    decide +kernel
  exact fun ext hext => hknown ext (mem_reportable_iff.mp hext)

/-- Where no directory below has a configuration of its own, the extensions that are detected are
the known ones that there is something to scan for, with one exception: that of Swift, which is
longer than four letters, is never detected. They are in order, each once. -/
theorem detect_iff_collect (htree : tree.DistinctNames) (hundivided : IsUndivided tree start)
    (ignored : List String) :
    (∀ ext ∈ reportable .builtIn, ext ∈ detect .builtIn tree start ignored ↔
      ext ≠ "swift" ∧ (collect tree start [ext] ignored).files ≠ []) ∧
    (∀ ext ∈ detect .builtIn tree start ignored, ext ∈ reportable .builtIn) ∧
    (detect .builtIn tree start ignored).Pairwise (· < ·) := by
  refine ⟨?_, ?_, pairwise_distinct _⟩
  · intro ext hreportable
    obtain ⟨hext, hshort⟩ := reportable_builtIn ext hreportable
    rw [mem_detect_iff_collect htree hundivided hreportable hext, hshort]
  · intro ext hdetected
    exact (mem_detect_iff.mp hdetected).2.1

end Detect

private def mixedTree : Node :=
  .dir [("src", .dir [("main.PY", .file []), ("App.swift", .file [])]),
    ("out", .dir [("x.js", .file [])])]

/-- Of a program in two languages and the output of a third, one language is detected. -/
theorem detect_iff_collect_mixed :
    mixedTree.DistinctNames ∧ IsUndivided mixedTree [] ∧
      "py" ∈ detect .builtIn mixedTree [] ["out/"] ∧ "js" ∉ detect .builtIn mixedTree [] ["out/"] := by
  have htree : mixedTree.DistinctNames := by
    simp [mixedTree, Node.DistinctNames, Node.DistinctNamesIn]
  have hundivided : IsUndivided mixedTree [] := isUndivided_of_files (by decide)
  obtain ⟨hiff, -, -⟩ := detect_iff_collect htree hundivided ["out/"]
  have hpy : "py" ∈ reportable .builtIn := mem_reportable_iff.mpr (by decide +kernel)
  have hjs : "js" ∈ reportable .builtIn := mem_reportable_iff.mpr (by decide +kernel)
  refine ⟨htree, hundivided, (hiff "py" hpy).mpr ⟨by decide, by decide +kernel⟩, ?_⟩
  rw [hiff "js" hjs]
  decide +kernel

/-- A tree of Swift alone has files to scan and no extension. -/
theorem detect_misses_swift :
    "swift" ∈ reportable .builtIn ∧ IsUndivided (.dir [("a.swift", .file [])]) [] ∧
      (collect (.dir [("a.swift", .file [])]) [] ["swift"] []).files = [["a.swift"]] ∧
      detect .builtIn (.dir [("a.swift", .file [])]) [] [] = [] := by
  refine ⟨mem_reportable_iff.mpr (by decide +kernel), isUndivided_of_files (by decide), ?_, ?_⟩
  · decide +kernel
  · decide +kernel

end CodeTwins.Scan
