import CodeTwins.Proofs.Element.Extraction
import Mathlib.Data.List.Forall2

/-!
# Which matches make elements

A match qualifies if it is not excluded, does not start in a comment, and has a block after it. The
elements are those of the qualifying matches, in their order, but for those that start where an earlier
qualifying match does. This holds of any sequences of matches, so nothing is assumed of how they are
found.
-/
namespace CodeTwins.Extraction

open Source

variable {text : List Char} {isExcluded : List Char → Bool} {origin : Origin}

/-- A match that makes an element, unless an earlier one has its start. -/
def Qualifies (text : List Char) (isExcluded : List Char → Bool) (m : Found) : Prop :=
  isExcluded (slice text m.start m.stop) = false ∧ isInsideComment text m.start = false ∧
    ∃ opening closing, bodyStart text m.stop = some opening ∧ bodyEnd text opening = some closing

theorem blockOf_eq_some_iff {m : Found} {opening closing : Nat} :
    blockOf text isExcluded m = some (opening, closing) ↔
      isExcluded (slice text m.start m.stop) = false ∧ isInsideComment text m.start = false ∧
        bodyStart text m.stop = some opening ∧ bodyEnd text opening = some closing := by
  unfold blockOf
  by_cases hexcluded : isExcluded (slice text m.start m.stop) = true
  · simp [hexcluded]
  · by_cases hcomment : isInsideComment text m.start = true
    · simp [hexcluded, hcomment]
    · simp only [hexcluded, hcomment]
      simp only [Bool.false_eq_true, if_false, Option.bind_eq_bind, Option.bind_eq_some_iff,
        Option.pure_def, Option.some.injEq, Prod.mk.injEq, true_and]
      constructor
      · rintro ⟨opening', hopening, closing', hclosing, rfl, rfl⟩
        exact ⟨hopening, hclosing⟩
      · intro ⟨hopening, hclosing⟩
        exact ⟨opening, hopening, closing, hclosing, rfl, rfl⟩

private theorem isSome_blockOf {m : Found} :
    (blockOf text isExcluded m).isSome = true ↔ Qualifies text isExcluded m := by
  simp [Option.isSome_iff_exists, blockOf_eq_some_iff, Qualifies]

instance : DecidablePred (Qualifies text isExcluded) :=
  fun _ => decidable_of_iff _ isSome_blockOf

/-- The element that a match makes: its text goes from the start of the match to the end of the block
after it. -/
structure ElementOf (text : List Char) (origin : Origin) (m : Found) (e : Element) : Prop where
  block : ∃ opening closing, bodyStart text m.stop = some opening ∧
    bodyEnd text opening = some closing ∧ e.text = String.ofList (slice text m.start closing)
  line : e.metadata.lineNumber = (text.take m.start).count '\n' + 1
  named : ∀ group, m.firstGroup = some group → group ≠ [] →
    e.metadata.elementName = String.ofList group
  unnamed : m.firstGroup.getD [] = [] →
    e.metadata.elementName = String.ofList (Text.trim (slice text m.start m.stop))
  origin : e.metadata.filePath = origin.filePath ∧ e.metadata.fileHash = origin.fileHash ∧
    e.metadata.commitHash = origin.commitHash ∧ e.metadata.basePath = origin.basePath

theorem elementOf_of_blockOf {m : Found} {opening closing : Nat}
    (h : blockOf text isExcluded m = some (opening, closing)) :
    ElementOf text origin m (elementOf text origin m closing) where
  block := by
    obtain ⟨-, -, hopening, hclosing⟩ := blockOf_eq_some_iff.mp h
    exact ⟨opening, closing, hopening, hclosing, rfl⟩
  line := by simp [elementOf, lineOf]
  named group hgroup hne := by
    cases group with
    | nil => exact absurd rfl hne
    | cons c cs => simp [elementOf, nameOf, hgroup]
  unnamed hgroup := by
    unfold elementOf nameOf
    split
    case h_1 hsome => simp [hsome] at hgroup
    case h_2 => rfl
  origin := ⟨rfl, rfl, rfl, rfl⟩

section First

/-- The matches that start where none before them does. -/
def firstAtStart (ms : List Found) : List Found :=
  (ms.zipIdx.filter fun (m, i) => ∀ earlier ∈ ms.take i, earlier.start ≠ m.start).map (·.1)

/-- The matches that start where none before them does, some earlier ones being given. -/
def firstAfter (before ms : List Found) : List Found :=
  (ms.zipIdx.filter fun (m, i) =>
    ∀ earlier ∈ before ++ ms.take i, earlier.start ≠ m.start).map (·.1)

private theorem firstAfter_cons (before : List Found) (m : Found) (ms : List Found) :
    firstAfter before (m :: ms) =
      if ∀ earlier ∈ before, earlier.start ≠ m.start then m :: firstAfter (before ++ [m]) ms
      else firstAfter (before ++ [m]) ms := by
  have hrest : ((ms.zipIdx 1).filter fun (m', i) =>
      ∀ earlier ∈ before ++ (m :: ms).take i, earlier.start ≠ m'.start).map (·.1) =
      firstAfter (before ++ [m]) ms := by
    rw [List.zipIdx_succ, List.filter_map, List.map_map]
    refine congrArg (List.map _) (List.filter_congr fun (m', i) _ => decide_eq_decide.mpr ?_)
    simp
  rw [firstAfter, List.zipIdx_cons, List.filter_cons, ← hrest]
  by_cases h : ∀ earlier ∈ before, earlier.start ≠ m.start
  · rw [if_pos h, if_pos (by simpa using h), List.map_cons]
  · rw [if_neg h, if_neg (by simpa using h)]

private theorem firstAfter_append (before ms more : List Found) :
    firstAfter before (ms ++ more) = firstAfter before ms ++ firstAfter (before ++ ms) more := by
  induction ms generalizing before with
  | nil =>
    rw [List.append_nil]
    rfl
  | cons m ms ih =>
    rw [List.cons_append, firstAfter_cons, firstAfter_cons, ih, List.append_assoc, List.singleton_append]
    split
    · rfl
    · rfl

private theorem mem_of_mem_firstAfter {before ms : List Found} {m : Found}
    (h : m ∈ firstAfter before ms) : m ∈ ms := by
  obtain ⟨⟨m', i⟩, hfirst, rfl⟩ := List.mem_map.mp h
  exact List.fst_mem_of_mem_zipIdx (List.mem_filter.mp hfirst).1

/-- Where the first matches start, any match starts, and only there. -/
theorem exists_firstAfter_iff {before ms : List Found} {start : Nat} :
    (∃ m ∈ firstAfter before ms, m.start = start) ↔
      (∃ m ∈ ms, m.start = start) ∧ ∀ earlier ∈ before, earlier.start ≠ start := by
  induction ms generalizing before with
  | nil => simp [firstAfter]
  | cons m ms ih =>
    have hlater : (∃ m' ∈ firstAfter (before ++ [m]) ms, m'.start = start) ↔
        (∃ m' ∈ ms, m'.start = start) ∧ (∀ earlier ∈ before, earlier.start ≠ start) ∧
          m.start ≠ start := by
      rw [ih]
      simp only [List.forall_mem_append, List.forall_mem_singleton]
    rw [firstAfter_cons, List.exists_mem_cons_iff]
    by_cases hstart : m.start = start
    · subst hstart
      split
      case isTrue hnew => simpa using hnew
      case isFalse hold => simp [hlater, hold]
    · split
      case isTrue => simp [hstart, hlater]
      case isFalse => simp [hstart, hlater]

end First

/-- The starts that have been taken are those of the qualifying matches so far. -/
theorem forall₂_elementsFrom {claimed : List Nat} {before ms : List Found}
    (hclaimed : ∀ n, n ∈ claimed ↔ ∃ m ∈ before, m.start = n) :
    List.Forall₂ (ElementOf text origin) (firstAfter before (ms.filter (Qualifies text isExcluded)))
      (elementsFrom text isExcluded origin claimed ms) := by
  induction ms generalizing claimed before with
  | nil => exact .nil
  | cons m ms ih =>
    unfold elementsFrom
    split
    case h_1 hblock =>
      have hrejected : ¬ Qualifies text isExcluded m := by simp [← isSome_blockOf, hblock]
      rw [List.filter_cons_of_neg (by simpa using hrejected)]
      exact ih hclaimed
    case h_2 opening closing hblock =>
      have hqualifies : Qualifies text isExcluded m := by simp [← isSome_blockOf, hblock]
      rw [List.filter_cons_of_pos (by simpa using hqualifies), firstAfter_cons]
      have hnext : ∀ n, (∃ m' ∈ before ++ [m], m'.start = n) ↔ n = m.start ∨ n ∈ claimed := by
        intro n
        simp only [List.mem_append, List.mem_singleton, or_and_right, exists_or, exists_eq_left,
          hclaimed]
        rw [or_comm, eq_comm]
      by_cases htaken : m.start ∈ claimed
      · obtain ⟨old, hold, hsame⟩ := (hclaimed _).mp htaken
        rw [if_neg fun hnew => hnew old hold hsame, if_pos (by simpa using htaken)]
        refine ih fun n => (hnext n).trans ?_ |>.symm
        exact or_iff_right_of_imp fun hn => hn ▸ htaken
      · have hnew : ∀ earlier ∈ before, earlier.start ≠ m.start :=
          fun old hold hsame => htaken ((hclaimed _).mpr ⟨old, hold, hsame⟩)
        rw [if_pos hnew, if_neg (by simpa using htaken)]
        refine .cons (elementOf_of_blockOf hblock) (ih fun n => ?_)
        rw [hnext, List.mem_cons]

/-- Matches that are rejected play no part. -/
theorem elementsFrom_filter (claimed : List Nat) (ms : List Found) :
    elementsFrom text isExcluded origin claimed (ms.filter (Qualifies text isExcluded)) =
      elementsFrom text isExcluded origin claimed ms := by
  induction ms generalizing claimed with
  | nil => rfl
  | cons m ms ih =>
    cases hblock : blockOf text isExcluded m with
    | none =>
      have hrejected : ¬ Qualifies text isExcluded m := by simp [← isSome_blockOf, hblock]
      rw [List.filter_cons_of_neg (by simpa using hrejected), ih]
      simp [elementsFrom, hblock]
    | some block =>
      have hqualifies : Qualifies text isExcluded m := by simp [← isSome_blockOf, hblock]
      rw [List.filter_cons_of_pos (by simpa using hqualifies)]
      simp [elementsFrom, hblock, ih]

/-- Further matches only add elements at the end. -/
theorem exists_elementsFrom_append (claimed : List Nat) (ms more : List Found) :
    ∃ added, elementsFrom text isExcluded origin claimed (ms ++ more) =
      elementsFrom text isExcluded origin claimed ms ++ added := by
  induction ms generalizing claimed with
  | nil => exact ⟨_, rfl⟩
  | cons m ms ih =>
    simp only [List.cons_append, elementsFrom]
    cases blockOf text isExcluded m with
    | none => exact ih claimed
    | some block =>
      by_cases htaken : claimed.contains m.start = true
      · simp only [htaken, if_true]
        exact ih claimed
      · obtain ⟨added, hadded⟩ := ih (m.start :: claimed)
        simp only [htaken, hadded]
        exact ⟨added, rfl⟩

section Taken

variable (text : List Char) (included excluded : List SignaturePattern) (origin : Origin)

/-- The matches that elements are made of, in the order of the elements. -/
def taken : List Found :=
  firstAtStart <| (included.flatMap (foundBy text)).filter
    (Qualifies text fun signature => excluded.any (·.occursIn signature))

theorem forall₂_elements :
    List.Forall₂ (ElementOf text origin) (taken text included excluded)
      (elements text included excluded origin) := by
  have hnone : ∀ n, n ∈ ([] : List Nat) ↔ ∃ m ∈ ([] : List Found), m.start = n := by simp
  exact forall₂_elementsFrom hnone

variable {text included excluded}

theorem qualifies_of_mem_taken {m : Found} (h : m ∈ taken text included excluded) :
    Qualifies text (fun signature => excluded.any (·.occursIn signature)) m := by
  change m ∈ firstAfter [] _ at h
  exact of_decide_eq_true (List.mem_filter.mp (mem_of_mem_firstAfter h)).2

/-- A match of the first pattern is taken if it qualifies and is the only one where it starts. -/
theorem mem_taken_cons {pattern : SignaturePattern} {m : Found} (hm : m ∈ foundBy text pattern)
    (hqualifies : Qualifies text (fun signature => excluded.any (·.occursIn signature)) m)
    (honly : ∀ m' ∈ foundBy text pattern, m'.start = m.start → m' = m) :
    m ∈ taken text (pattern :: included) excluded := by
  change m ∈ firstAfter [] _
  have hkept : m ∈ (foundBy text pattern).filter
      (Qualifies text fun signature => excluded.any (·.occursIn signature)) :=
    List.mem_filter.mpr ⟨hm, decide_eq_true hqualifies⟩
  obtain ⟨m', hfirst, hstart⟩ :=
    exists_firstAfter_iff.mpr ⟨⟨m, hkept, rfl⟩, List.forall_mem_nil _⟩
  rw [List.flatMap_cons, List.filter_append, firstAfter_append]
  refine List.mem_append_left _ ?_
  obtain rfl := honly m' (List.mem_filter.mp (mem_of_mem_firstAfter hfirst)).1 hstart
  exact hfirst

/-- An element is made of each match that is taken. -/
theorem exists_element_of_mem_taken {m : Found} (h : m ∈ taken text included excluded) :
    ∃ e, (m, e) ∈ (taken text included excluded).zip (elements text included excluded origin) ∧
      ElementOf text origin m e := by
  obtain ⟨hlength, hpairs⟩ :=
    List.forall₂_iff_zip.mp (forall₂_elements text included excluded origin)
  rw [← List.map_fst_zip (Nat.le_of_eq hlength)] at h
  obtain ⟨⟨m', e⟩, hmem, rfl⟩ := List.mem_map.mp h
  exact ⟨e, hmem, hpairs hmem⟩

end Taken

/-- The elements are those of the first qualifying match at each start, in the order of the patterns and
of their matches. Rejected matches play no part, the order of the patterns does not decide at which
places elements start, and a further pattern only adds elements at the end. -/
theorem elements_first_qualifying (text : List Char) (search : SignaturePattern → List Found)
    (occurs : SignaturePattern → List Char → Bool) (origin : Origin)
    (includes excludes : List SignaturePattern) :
    let isExcluded := fun signature => excludes.any (occurs · signature)
    let qualifying := fun includes : List SignaturePattern =>
      (includes.flatMap search).filter (Qualifies text isExcluded)
    let emitted := fun ms => elementsFrom text isExcluded origin [] ms
    List.Forall₂ (ElementOf text origin) (firstAtStart (qualifying includes))
        (emitted (includes.flatMap search)) ∧
      emitted (qualifying includes) = emitted (includes.flatMap search) ∧
      (∀ others, others.Perm includes → ∀ start,
        (∃ m ∈ firstAtStart (qualifying others), m.start = start) ↔
          ∃ m ∈ firstAtStart (qualifying includes), m.start = start) ∧
      (∀ pattern, ∃ added, emitted ((includes ++ [pattern]).flatMap search) =
        emitted (includes.flatMap search) ++ added) ∧
      elements text includes excludes origin =
        elementsFrom text (fun signature => excludes.any (·.occursIn signature)) origin []
          (includes.flatMap (foundBy text)) := by
  intro isExcluded qualifying emitted
  have hfirst : ∀ ms, firstAtStart ms = firstAfter [] ms := fun _ => rfl
  have hnone : ∀ n, n ∈ ([] : List Nat) ↔ ∃ m ∈ ([] : List Found), m.start = n := by simp
  refine ⟨forall₂_elementsFrom hnone, elementsFrom_filter [] _, ?_, ?_, rfl⟩
  · intro others hperm start
    simp only [hfirst, exists_firstAfter_iff, qualifying, List.mem_filter, List.mem_flatMap,
      hperm.mem_iff]
  · intro pattern
    rw [List.flatMap_append]
    exact exists_elementsFrom_append [] _ _

/-- Two patterns that claim one place, an empty match and a declaration without a block: which pattern
comes first decides on the name, not on the place. -/
theorem elements_first_qualifying_claimed :
    let text := ['f', '(', ')', '{', '}', 'g', ';']
    let calls : SignaturePattern := ⟨"calls", .empty, 0⟩
    let names : SignaturePattern := ⟨"names", .empty, 1⟩
    let search := fun p : SignaturePattern =>
      if p = calls then [⟨5, 6, none⟩, ⟨0, 3, none⟩] else [⟨0, 1, some ['f']⟩, ⟨0, 0, none⟩]
    let qualifying := fun includes : List SignaturePattern =>
      (includes.flatMap search).filter (Qualifies text fun _ => false)
    let nameList := fun includes : List SignaturePattern =>
      (elementsFrom text (fun _ => false) {} [] (includes.flatMap search)).map
        (·.metadata.elementName)
    [names, calls].Perm [calls, names] ∧ nameList [calls, names] = ["f()"] ∧
      nameList [names, calls] = ["f"] ∧
      ∀ start, (∃ m ∈ firstAtStart (qualifying [names, calls]), m.start = start) ↔
        ∃ m ∈ firstAtStart (qualifying [calls, names]), m.start = start := by
  intro text calls names search qualifying nameList
  have hperm : [names, calls].Perm [calls, names] := .swap calls names []
  refine ⟨hperm, by decide, by decide, ?_⟩
  exact (elements_first_qualifying text search (fun _ _ => false) {} [calls, names] []).2.2.1 _ hperm

end CodeTwins.Extraction
