import CodeTwins.Proofs.Scan.Wildcard
import CodeTwins.Scan.Ignore
import Mathlib.Data.List.DropRight

/-!
# Where patterns apply

A place is a text, and the names on the way to it are what its slashes separate. The four matches
that are made for a directory are the four ways in which its names can follow one another among
those: alone, first, last, and in between. A pattern for a file applies to one place, or to one name
wherever it is.
-/
namespace CodeTwins.Ignore

open Wildcard

section Names

variable {directory place : List Char}

/-- The names on the way to a place. -/
def namesOn (place : List Char) : List (List Char) :=
  place.splitOn '/'

private theorem namesOn_append (above below : List Char) :
    namesOn (above ++ '/' :: below) = namesOn above ++ namesOn below :=
  List.splitOn_append_cons_self above below

private theorem namesOn_of_not_mem (h : '/' ∉ place) : namesOn place = [place] :=
  List.splitOn_eq_singleton h

private theorem intercalate_namesOn (place : List Char) : ['/'].intercalate (namesOn place) = place :=
  List.intercalate_splitOn '/'

private theorem intercalate_append {above below : List (List Char)} (habove : above ≠ [])
    (hbelow : below ≠ []) :
    ['/'].intercalate (above ++ below) =
      ['/'].intercalate above ++ '/' :: ['/'].intercalate below := by
  induction above with
  | nil => exact absurd rfl habove
  | cons name above ih =>
    cases above with
    | nil => simp [List.intercalate_cons_of_ne_nil hbelow]
    | cons next above =>
      rw [List.cons_append, List.cons_append, List.intercalate_cons_cons, ← List.cons_append,
        ih (List.cons_ne_nil _ _), List.intercalate_cons_cons]
      simp

/-- The names of a directory follow one another on a way if the way is the directory, goes on from
it, leads to it, or does both. -/
theorem namesOn_isInfix_iff : namesOn directory <:+: namesOn place ↔
    place = directory ∨ (∃ below, place = directory ++ '/' :: below) ∨
      (∃ above, place = above ++ '/' :: directory) ∨
        ∃ above below, place = above ++ '/' :: directory ++ '/' :: below := by
  constructor
  · intro h
    obtain ⟨above, below, hnames⟩ := h
    have hplace := intercalate_namesOn place
    have hdirectory := intercalate_namesOn directory
    have hne : namesOn directory ≠ [] := List.splitOn_ne_nil _ _
    rw [← hnames] at hplace
    rcases eq_or_ne above [] with habove | habove <;> rcases eq_or_ne below [] with hbelow | hbelow
    case inl.inl =>
      left
      rw [← hplace, habove, hbelow, List.nil_append, List.append_nil, hdirectory]
    case inl.inr =>
      right; left
      rw [← hplace, habove, List.nil_append, intercalate_append hne hbelow, hdirectory]
      exact ⟨_, rfl⟩
    case inr.inl =>
      right; right; left
      rw [← hplace, hbelow, List.append_nil, intercalate_append habove hne, hdirectory]
      exact ⟨_, rfl⟩
    case inr.inr =>
      right; right; right
      rw [← hplace, intercalate_append (List.append_ne_nil_of_left_ne_nil habove _) hbelow,
        intercalate_append habove hne, hdirectory]
      exact ⟨_, _, rfl⟩
  · intro h
    rcases h with h | ⟨below, h⟩ | ⟨above, h⟩ | ⟨above, below, h⟩
    · rw [h]
    · rw [h, namesOn_append]
      exact (List.prefix_append _ _).isInfix
    · rw [h, namesOn_append]
      exact (List.suffix_append _ _).isInfix
    · rw [h, namesOn_append, namesOn_append]
      exact List.infix_append _ _ _

/-- A place is within a directory if the names of the directory follow one another on the way. -/
theorem isWithin_iff (h : IsLiteral directory) :
    isWithin (ofText directory) place = true ↔ namesOn directory <:+: namesOn place := by
  have hself : isMatch (ofText directory) place = true ↔ place = directory := h.isMatch_iff
  have hbelow : ∀ text, isMatch (ofText directory ++ [.char '/', .run]) text = true ↔
      ∃ below, text = directory ++ '/' :: below := by
    intro text
    rw [h.isMatch_append_iff]
    constructor
    · intro hmatch
      obtain ⟨rest, htext, hrest⟩ := hmatch
      obtain ⟨below, rfl⟩ := isMatch_char_run_iff.mp hrest
      exact ⟨below, htext⟩
    · intro hmatch
      obtain ⟨below, htext⟩ := hmatch
      exact ⟨'/' :: below, htext, isMatch_char_run_iff.mpr ⟨below, rfl⟩⟩
  have habove : isMatch ([.run, .char '/'] ++ ofText directory) place = true ↔
      ∃ above, place = above ++ '/' :: directory := by
    rw [List.cons_append, List.singleton_append, isMatch_run_char_iff]
    simp only [h.isMatch_iff, exists_eq_right]
  have hboth : isMatch ([.run, .char '/'] ++ ofText directory ++ [.char '/', .run]) place = true ↔
      ∃ above below, place = above ++ '/' :: directory ++ '/' :: below := by
    rw [List.append_assoc, List.cons_append, List.singleton_append, isMatch_run_char_iff]
    simp only [hbelow]
    constructor
    · intro hmatch
      obtain ⟨above, rest, hplace, below, rfl⟩ := hmatch
      exact ⟨above, below, by rw [hplace, List.append_assoc, List.cons_append]⟩
    · intro hmatch
      obtain ⟨above, below, hplace⟩ := hmatch
      exact ⟨above, _, by rw [hplace, List.append_assoc, List.cons_append], below, rfl⟩
  rw [namesOn_isInfix_iff, isWithin, Bool.or_eq_true, Bool.or_eq_true, Bool.or_eq_true, hself,
    hbelow, habove, hboth, or_assoc, or_assoc]

private theorem lastName_eq (place : List Char) : lastName place = place.rtakeWhile (· ≠ '/') :=
  rfl

private theorem lastName_of_not_mem (h : '/' ∉ place) : lastName place = place := by
  rw [lastName_eq, List.rtakeWhile_eq_self_iff]
  intro c hc
  exact decide_eq_true fun hslash => h (hslash ▸ hc)

private theorem lastName_append (above below : List Char) :
    lastName (above ++ '/' :: below) = lastName below := by
  rw [lastName_eq, lastName_eq]
  induction below using List.reverseRecOn with
  | nil => simp
  | append_singleton below c ih =>
    rw [← List.cons_append, ← List.append_assoc, List.rtakeWhile_concat, List.rtakeWhile_concat, ih]

/-- What is taken for the last name of a place is the last name on the way there. -/
theorem getLast?_namesOn (place : List Char) : (namesOn place).getLast? = some (lastName place) := by
  by_cases hslash : '/' ∈ place
  · obtain ⟨first, rest, hplace, -⟩ := List.eq_append_cons_of_mem hslash
    have hshorter : rest.length < place.length := by
      rw [hplace, List.length_append, List.length_cons]
      omega
    rw [hplace, namesOn_append, lastName_append, List.getLast?_append, getLast?_namesOn rest,
      Option.some_or]
  · rw [namesOn_of_not_mem hslash, lastName_of_not_mem hslash, List.getLast?_singleton]
termination_by place.length

end Names

section Directories

/-- A text without the slashes at both its ends. -/
def withoutSlashes (cs : List Char) : List Char :=
  Text.trimEnd (· == '/') (Text.trimStart (· == '/') cs)

private theorem withoutSlashes_append_slash (cs : List Char) :
    withoutSlashes (cs ++ ['/']) = withoutSlashes cs := by
  rw [withoutSlashes, withoutSlashes, Text.trimStart, Text.trimStart, List.dropWhile_append]
  split
  case isTrue hempty =>
    rw [List.isEmpty_iff.mp hempty]
    rfl
  case isFalse => simp [Text.trimEnd]

private theorem withoutSlashes_sublist (cs : List Char) : (withoutSlashes cs).Sublist cs := by
  have hend : (withoutSlashes cs).Sublist (Text.trimStart (· == '/') cs) := by
    rw [← List.reverse_sublist, withoutSlashes, Text.trimEnd, List.reverse_reverse]
    exact List.dropWhile_sublist _
  exact hend.trans (List.dropWhile_sublist _)

private theorem isIgnored_singleton (pattern path : String) :
    isIgnored [pattern] path = names pattern.toList (placeOf path) := by
  rw [isIgnored, List.any_cons, List.any_nil, Bool.or_false]

private theorem placeOf_below (path below : String) :
    placeOf (path ++ "/" ++ below) = placeOf path ++ '/' :: placeOf below := by
  simp [placeOf]

private theorem names_directory_iff {directory place : List Char} (hliteral : IsLiteral directory)
    (hsign : directory.head? ≠ some '!') (hnamed : withoutSlashes directory ≠ []) :
    names (directory ++ ['/']) place = true ↔
      namesOn (withoutSlashes directory) <:+: namesOn place := by
  have hwithin : isWithin (ofText (withoutSlashes directory)) place = true ↔
      namesOn (withoutSlashes directory) <:+: namesOn place :=
    isWithin_iff (hliteral.sublist (withoutSlashes_sublist directory))
  have hhead : (directory ++ ['/']).head? ≠ some '!' := by
    cases directory with
    | nil => exact absurd rfl hnamed
    | cons c cs => exact hsign
  have hstart : ((directory ++ ['/']).isEmpty || (directory ++ ['/']).head? == some '!') = false := by
    simpa using hhead
  have hend : ((directory ++ ['/']).getLast? == some '/') = true := by simp
  rw [names, hstart, hend, if_neg Bool.false_ne_true, if_pos rfl]
  change (!(withoutSlashes (directory ++ ['/'])).isEmpty &&
    isWithin (ofText (withoutSlashes (directory ++ ['/']))) place) = true ↔ _
  rw [withoutSlashes_append_slash, Bool.and_eq_true, hwithin]
  simp [hnamed]

/-- A pattern that ends in a slash stands for the places on the way to which the names of its
directory follow one another, whole names, at any depth. So it stands for all that is below such a
place. The names of a path are those of its place: backslashes part them too. -/
theorem isIgnored_directory_iff {directory : String} (hliteral : IsLiteral directory.toList)
    (hsign : directory.toList.head? ≠ some '!') (hnamed : withoutSlashes directory.toList ≠ []) :
    let names := namesOn (withoutSlashes directory.toList)
    (∀ path, isIgnored [directory ++ "/"] path = true ↔ names <:+: namesOn (placeOf path)) ∧
    (∀ path, isIgnored [directory ++ "/"] path = true →
      ∀ name ∈ names, name ∈ namesOn (placeOf path)) ∧
    ∀ path below, isIgnored [directory ++ "/"] path = true →
      isIgnored [directory ++ "/"] (path ++ "/" ++ below) = true := by
  intro names
  have hiff : ∀ path, isIgnored [directory ++ "/"] path = true ↔
      names <:+: namesOn (placeOf path) := by
    intro path
    rw [isIgnored_singleton, String.toList_append]
    exact names_directory_iff hliteral hsign hnamed
  refine ⟨hiff, ?_, ?_⟩
  · intro path h name hname
    exact ((hiff path).mp h).subset hname
  · intro path below h
    rw [hiff, placeOf_below, namesOn_append]
    exact ((hiff path).mp h).trans (List.prefix_append _ _).isInfix

/-- The names of a directory are found at any depth, but not as a part of a longer name. -/
theorem isIgnored_directory_iff_nested :
    IsLiteral "lib/gen".toList ∧ "lib/gen".toList.head? ≠ some '!' ∧
      withoutSlashes "lib/gen".toList ≠ [] ∧ isIgnored ["lib/gen" ++ "/"] "a/lib/gen/x.ts" = true ∧
        ¬ isIgnored ["lib/gen" ++ "/"] "a/my_lib/gen/x.ts" = true := by
  have hliteral : IsLiteral "lib/gen".toList := by decide
  have hsign : "lib/gen".toList.head? ≠ some '!' := by decide
  have hnamed : withoutSlashes "lib/gen".toList ≠ [] := by decide
  have hiff := (isIgnored_directory_iff hliteral hsign hnamed).1
  refine ⟨hliteral, hsign, hnamed, (hiff "a/lib/gen/x.ts").mpr ?_, ?_⟩
  · decide +kernel
  · rw [hiff "a/my_lib/gen/x.ts"]
    decide +kernel

end Directories

section Anchors

variable {pattern place : List Char}

/-- What is left of a pattern without the slashes at its start. -/
def withoutAnchor (pattern : List Char) : List Char :=
  Text.trimStart (· == '/') pattern

private theorem withoutAnchor_of_head (h : pattern.head? ≠ some '/') :
    withoutAnchor pattern = pattern := by
  cases pattern with
  | nil => rfl
  | cons c cs =>
    have hc : c ≠ '/' := fun heq => h (congrArg some heq)
    rw [withoutAnchor, Text.trimStart, List.dropWhile_cons_of_neg (by simpa using hc)]

/-- What a pattern that does not end in a slash is to stand for: with a slash, for one place;
without one, for all places with this last name. -/
def StandsFor (pattern place : List Char) : Prop :=
  ('/' ∈ pattern ∧ place = withoutAnchor pattern) ∨
    ('/' ∉ pattern ∧ (namesOn place).getLast? = some pattern)

/-- A pattern that is a single name but for slashes at its start. -/
def IsAnchoredName (pattern : List Char) : Prop :=
  pattern.head? = some '/' ∧ '/' ∉ withoutAnchor pattern

private theorem names_file_iff (hliteral : IsLiteral pattern) (hsome : pattern ≠ [])
    (hsign : pattern.head? ≠ some '!') (hend : pattern.getLast? ≠ some '/') :
    names pattern place = true ↔ place = withoutAnchor pattern ∨
      ('/' ∉ withoutAnchor pattern ∧ (namesOn place).getLast? = some (withoutAnchor pattern)) := by
  have hrest : IsLiteral (withoutAnchor pattern) := hliteral.sublist (List.dropWhile_sublist _)
  have hstart : (pattern.isEmpty || pattern.head? == some '!') = false := by
    simpa [hsome] using hsign
  have hlast : (pattern.getLast? == some '/') = false := by simpa using hend
  rw [names, hstart, hlast, if_neg Bool.false_ne_true, if_neg Bool.false_ne_true]
  change (isMatch (ofText (withoutAnchor pattern)) place ||
    (!(withoutAnchor pattern).contains '/' &&
      isMatch (ofText (withoutAnchor pattern)) (lastName place))) = true ↔ _
  rw [Bool.or_eq_true, Bool.and_eq_true, hrest.isMatch_iff, hrest.isMatch_iff, getLast?_namesOn,
    Option.some_inj]
  simp

/-- A pattern stands for what it is to stand for; a single name with a slash before it stands also
for all other places with this last name. -/
theorem names_file_iff_standsFor (hliteral : IsLiteral pattern) (hsome : pattern ≠ [])
    (hsign : pattern.head? ≠ some '!') (hend : pattern.getLast? ≠ some '/') :
    names pattern place = true ↔ StandsFor pattern place ∨
      (IsAnchoredName pattern ∧ (namesOn place).getLast? = some (withoutAnchor pattern)) := by
  rw [names_file_iff hliteral hsome hsign hend, StandsFor, IsAnchoredName]
  by_cases hhead : pattern.head? = some '/'
  · have hslash : '/' ∈ pattern := List.mem_of_head? hhead
    simp only [hslash, hhead, true_and, not_true_eq_false, false_and, or_false]
  · rw [withoutAnchor_of_head hhead]
    simp only [hhead, false_and, or_false]
    by_cases hslash : '/' ∈ pattern
    · simp only [hslash, true_and, not_true_eq_false, false_and, or_false]
    · simp only [hslash, false_and, false_or, not_false_eq_true, true_and]
      constructor
      · intro h
        rcases h with h | h
        · rw [h, namesOn_of_not_mem hslash, List.getLast?_singleton]
        · exact h
      · intro h
        exact .inr h

private theorem not_standsFor_below (hanchored : IsAnchoredName pattern) (name : Char) :
    ¬ StandsFor pattern (name :: '/' :: withoutAnchor pattern) := by
  intro h
  rcases h with ⟨-, hplace⟩ | ⟨hslash, -⟩
  · have hlength := congrArg List.length hplace
    simp only [List.length_cons] at hlength
    omega
  · exact hslash (List.mem_of_head? hanchored.1)

private theorem placeOf_ofList (hliteral : IsLiteral place) :
    placeOf (String.ofList place) = place := by
  rw [placeOf, String.toList_ofList]
  refine (List.map_congr_left fun c hc => ?_).trans (List.map_id place)
  have hbackslash : c ≠ '\\' := fun heq => hliteral c hc (by simp [heq])
  rw [if_neg hbackslash, id]

/-- A pattern without wildcards that does not end in a slash: with a slash in it, it stands for one
place, and without one for all places with its last name. The exception is a single name with
slashes before it, which stands for all places with that last name too. So patterns stand for what
they are to stand for, at all places, if and only if they are not such names. In the place of a path
its backslashes are slashes. -/
theorem isIgnored_anchored_iff {pattern : String} (hliteral : IsLiteral pattern.toList)
    (hsome : pattern.toList ≠ []) (hsign : pattern.toList.head? ≠ some '!')
    (hend : pattern.toList.getLast? ≠ some '/') :
    (∀ path, isIgnored [pattern] path = true ↔ StandsFor pattern.toList (placeOf path) ∨
      (IsAnchoredName pattern.toList ∧
        (namesOn (placeOf path)).getLast? = some (withoutAnchor pattern.toList))) ∧
    ((∀ path, isIgnored [pattern] path = true ↔ StandsFor pattern.toList (placeOf path)) ↔
      ¬ IsAnchoredName pattern.toList) := by
  have hiff : ∀ path, isIgnored [pattern] path = true ↔ StandsFor pattern.toList (placeOf path) ∨
      (IsAnchoredName pattern.toList ∧
        (namesOn (placeOf path)).getLast? = some (withoutAnchor pattern.toList)) := by
    intro path
    rw [isIgnored_singleton]
    exact names_file_iff_standsFor hliteral hsome hsign hend
  refine ⟨hiff, ?_, ?_⟩
  · intro hall hanchored
    -- One directory further down the pattern still stands for the name.
    have hbelow : IsLiteral ('a' :: '/' :: withoutAnchor pattern.toList) := by
      have hrest := hliteral.sublist (List.dropWhile_sublist (· == '/'))
      exact List.forall_mem_cons.mpr ⟨by decide, List.forall_mem_cons.mpr ⟨by decide, hrest⟩⟩
    have hlast : (namesOn ('a' :: '/' :: withoutAnchor pattern.toList)).getLast? =
        some (withoutAnchor pattern.toList) := by
      change (namesOn (['a'] ++ '/' :: withoutAnchor pattern.toList)).getLast? = _
      rw [namesOn_append, namesOn_of_not_mem hanchored.2, List.getLast?_concat]
    have hplace := placeOf_ofList hbelow
    apply not_standsFor_below hanchored 'a'
    rw [← hplace, ← hall, hiff, hplace]
    exact .inr ⟨hanchored, hlast⟩
  · intro hnot path
    rw [hiff]
    simp only [hnot, false_and, or_false]

/-- A pattern with a slash inside it stands for one place only. -/
theorem isIgnored_anchored_iff_nested :
    IsLiteral "/src/gen".toList ∧ "/src/gen".toList ≠ [] ∧ "/src/gen".toList.head? ≠ some '!' ∧
      "/src/gen".toList.getLast? ≠ some '/' ∧ isIgnored ["/src/gen"] "src/gen" = true ∧
        ¬ isIgnored ["/src/gen"] "a/src/gen" = true := by
  have hliteral : IsLiteral "/src/gen".toList := by decide
  have hsome : "/src/gen".toList ≠ [] := by decide
  have hsign : "/src/gen".toList.head? ≠ some '!' := by decide
  have hend : "/src/gen".toList.getLast? ≠ some '/' := by decide
  obtain ⟨-, hall⟩ := isIgnored_anchored_iff hliteral hsome hsign hend
  have hiff := hall.mpr fun hanchored => hanchored.2 (by decide)
  refine ⟨hliteral, hsome, hsign, hend, (hiff "src/gen").mpr (.inl ⟨by decide, by decide⟩), ?_⟩
  rw [hiff "a/src/gen"]
  intro h
  rcases h with ⟨-, hplace⟩ | ⟨hslash, -⟩
  · exact absurd hplace (by decide)
  · exact hslash (by decide)

/-- A slash before a single name does not keep the pattern to where the walk starts. -/
theorem isIgnored_below_anchor :
    isIgnored ["/build"] "sub/build" = true ∧ ¬ StandsFor "/build".toList (placeOf "sub/build") := by
  refine ⟨by decide +kernel, ?_⟩
  intro h
  rcases h with ⟨-, hplace⟩ | ⟨hslash, -⟩
  · exact absurd hplace (by decide)
  · exact hslash (by decide)

end Anchors

end CodeTwins.Ignore
