import CodeTwins.Config.IgnoreFiles
import CodeTwins.Proofs.Text.Utf8
import CodeTwins.Proofs.Traversal

/-!
# What ignore files list

A line of an ignore file lists a pattern if something stands in it that is no comment. Reading comes to
the patterns of all files in the order of their names, up to a file whose bytes are no text.
-/
namespace CodeTwins.IgnoreFiles

open Files

section Lines

/-- Whether a pattern stands in a line, which has no white space around it. -/
def listsPattern (line : List Char) : Bool :=
  !line.isEmpty && line.head? ≠ some '#'

/-- The patterns on lines. -/
def patternsOn (lines : List (List Char)) : List String :=
  ((lines.map Text.trim).filter listsPattern).map String.ofList

/-- The patterns of a text, of which each character that ends a line ends one. -/
def listed (text : List Char) : List String :=
  patternsOn (text.splitOnP Text.endsLine)

private theorem patternsOn_append (lines₁ lines₂ : List (List Char)) :
    patternsOn (lines₁ ++ lines₂) = patternsOn lines₁ ++ patternsOn lines₂ := by
  simp only [patternsOn, List.map_append, List.filter_append]

private theorem listed_nil : listed [] = [] :=
  rfl

private theorem listed_append_cons {c : Char} (hends : Text.endsLine c = true)
    (above below : List Char) : listed (above ++ c :: below) = listed above ++ listed below := by
  rw [listed, List.splitOnP_append_cons above below hends, patternsOn_append, listed, listed]

private theorem patternsOn_cons {line : List Char} (h : ∀ c ∈ line, Text.endsLine c = false)
    (lines : List (List Char)) : patternsOn (line :: lines) = listed line ++ patternsOn lines := by
  rw [listed, List.splitOnP_eq_singleton (by simpa using h)]
  exact patternsOn_append [line] lines

/-- A carriage return before a newline leaves an empty line between them, which does not count. -/
theorem listed_append_returned (above below : List Char) :
    listed (above ++ '\r' :: '\n' :: below) = listed above ++ listed below := by
  rw [listed_append_cons rfl, ← List.nil_append ('\n' :: below), listed_append_cons rfl,
    listed_nil, List.nil_append]

/-- The lines that are read list what the text lists after the part of a line already read. -/
theorem patternsOn_linesAfter {part : List Char} (hpart : ∀ c ∈ part, Text.endsLine c = false)
    (text : List Char) :
    patternsOn (Text.linesAfter part text) = listed (part.reverse ++ text) := by
  have hline : ∀ c ∈ part.reverse, Text.endsLine c = false :=
    fun c hc => hpart c (List.mem_reverse.mp hc)
  fun_induction Text.linesAfter part text with
  | case1 part hempty =>
    rw [List.isEmpty_iff.mp hempty]
    rfl
  | case2 part _ =>
    rw [patternsOn_cons hline, List.append_nil]
    exact List.append_nil _
  | case3 part cs ih =>
    rw [patternsOn_cons hline, ih (List.forall_mem_nil _) (List.forall_mem_nil _),
      listed_append_returned]
    rfl
  | case4 part c cs _ hends ih =>
    rw [patternsOn_cons hline, ih (List.forall_mem_nil _) (List.forall_mem_nil _),
      listed_append_cons hends]
    rfl
  | case5 part c cs _ hends ih =>
    have hc : ∀ d ∈ c :: part, Text.endsLine d = false :=
      List.forall_mem_cons.mpr ⟨Bool.eq_false_iff.mpr hends, hpart⟩
    have hline' : ∀ d ∈ (c :: part).reverse, Text.endsLine d = false :=
      fun d hd => hc d (List.mem_reverse.mp hd)
    rw [ih hc hline', List.reverse_cons, List.append_assoc, List.singleton_append]

/-- Carriage returns that become newlines change nothing of what is listed. -/
theorem listed_unifyNewlines (above text : List Char) :
    listed (above ++ Text.unifyNewlines text) = listed (above ++ text) := by
  fun_induction Text.unifyNewlines text generalizing above with
  | case1 => rfl
  | case2 cs ih =>
    rw [listed_append_returned, listed_append_cons rfl, ← List.nil_append (Text.unifyNewlines cs),
      ih, List.nil_append]
  | case3 c cs _ ih =>
    split
    case isTrue hreturn =>
      rw [hreturn, listed_append_cons rfl, listed_append_cons rfl,
        ← List.nil_append (Text.unifyNewlines cs), ih, List.nil_append]
    case isFalse =>
      have h := ih (above ++ [c])
      rwa [List.append_assoc, List.append_assoc] at h

private theorem patternsOf_eq (text : List Char) : patternsOf text = listed text := by
  have hread : patternsOf text = patternsOn (Text.lines (Text.unifyNewlines text)) := rfl
  rw [hread, Text.lines, patternsOn_linesAfter (List.forall_mem_nil _)]
  exact listed_unifyNewlines [] text

end Lines

section Files

variable {tree : Node} {path : Path} {patterns : List String}

/-- What a file lists: its text, and nothing where there is no file. -/
inductive Lists (tree : Node) (path : Path) : List String → Prop where
  | missing (h : tree.isFileAt path = false) : Lists tree path []
  | text (contents : String) (h : tree.at? path = some (.file (Utf8.encode contents))) :
      Lists tree path (listed contents.toList)

/-- Bytes that are those of no text. -/
def IsNoText (bytes : List UInt8) : Prop :=
  ∀ contents : String, bytes ≠ Utf8.encode contents

private theorem exists_text_of_decode {bytes : List UInt8} {cs : List Char}
    (h : Utf8.decode bytes = .ok cs) : ∃ contents : String, bytes = Utf8.encode contents := by
  rw [← String.toList_ofList (l := cs), Utf8.decode_eq_ok_iff] at h
  exact ⟨_, h⟩

private theorem isNoText_iff {bytes : List UInt8} :
    IsNoText bytes ↔ ∃ m, Utf8.decode bytes = .error m := by
  constructor
  · intro h
    cases hdecode : Utf8.decode bytes with
    | error m => exact ⟨m, rfl⟩
    | ok cs =>
      obtain ⟨contents, hbytes⟩ := exists_text_of_decode hdecode
      exact absurd hbytes (h contents)
  · rintro ⟨m, hm⟩ contents rfl
    rw [Utf8.decode_encode] at hm
    cases hm

private theorem isFileAt_eq_true_iff :
    tree.isFileAt path = true ↔ ∃ bytes, tree.at? path = some (.file bytes) := by
  rw [Node.isFileAt]
  split
  case h_1 bytes h => simp [h]
  case h_2 hnot => simpa using hnot

private theorem patternsIn_of_not_file (h : tree.isFileAt path = false) :
    patternsIn tree path = .ok [] := by
  rw [patternsIn]
  split
  case h_1 bytes hfile =>
    rw [isFileAt_eq_true_iff.mpr ⟨bytes, hfile⟩] at h
    cases h
  case h_2 => rfl

private theorem patternsIn_of_file {bytes : List UInt8} (h : tree.at? path = some (.file bytes)) :
    patternsIn tree path = (Utf8.decode bytes).map listed := by
  have hread : patternsIn tree path = (Utf8.decode bytes).map patternsOf := by
    rw [patternsIn, h]
  rw [hread, funext patternsOf_eq]

private theorem Lists.patternsIn_eq (h : Lists tree path patterns) :
    patternsIn tree path = .ok patterns := by
  cases h with
  | missing hat => exact patternsIn_of_not_file hat
  | text contents hfile =>
    rw [patternsIn_of_file hfile, Utf8.decode_encode]
    rfl

/-- A file lists something unless its bytes are those of no text, and then it can not be read. -/
theorem lists_or_isNoText (tree : Node) (path : Path) :
    (∃ part, Lists tree path part) ∨ ∃ bytes m, tree.at? path = some (.file bytes) ∧
      IsNoText bytes ∧ Utf8.decode bytes = .error m ∧ patternsIn tree path = .error m := by
  cases hat : tree.isFileAt path with
  | false => exact .inl ⟨[], .missing hat⟩
  | true =>
    obtain ⟨bytes, hfile⟩ := isFileAt_eq_true_iff.mp hat
    cases hdecode : Utf8.decode bytes with
    | error m =>
      refine .inr ⟨bytes, m, hfile, isNoText_iff.mpr ⟨m, hdecode⟩, hdecode, ?_⟩
      rw [patternsIn_of_file hfile, hdecode]
      rfl
    | ok cs =>
      obtain ⟨contents, rfl⟩ := exists_text_of_decode hdecode
      exact .inl ⟨_, .text contents hfile⟩

private theorem patternsIn_eq_ok_iff :
    patternsIn tree path = .ok patterns ↔ Lists tree path patterns := by
  refine ⟨fun h => ?_, Lists.patternsIn_eq⟩
  rcases lists_or_isNoText tree path with ⟨part, hlists⟩ | ⟨_, _, -, -, -, herror⟩
  · cases hlists.patternsIn_eq.symm.trans h
    exact hlists
  · cases herror.symm.trans h

private theorem patternsIn_eq_error_iff {m : Utf8.Malformed} :
    patternsIn tree path = .error m ↔
      ∃ bytes, tree.at? path = some (.file bytes) ∧ IsNoText bytes ∧ Utf8.decode bytes = .error m := by
  constructor
  · intro h
    rcases lists_or_isNoText tree path with ⟨part, hlists⟩ | ⟨bytes, _, hfile, hno, hdecode, herror⟩
    · cases hlists.patternsIn_eq.symm.trans h
    · cases herror.symm.trans h
      exact ⟨bytes, hfile, hno, hdecode⟩
  · rintro ⟨bytes, hfile, -, hdecode⟩
    rw [patternsIn_of_file hfile, hdecode]
    rfl

private theorem exists_lists_iff : (∃ part, Lists tree path part) ↔
    ∀ bytes, tree.at? path = some (.file bytes) → ¬ IsNoText bytes := by
  constructor
  · rintro ⟨part, hlists⟩ bytes hfile hno
    obtain ⟨m, hdecode⟩ := isNoText_iff.mp hno
    have herror := patternsIn_eq_error_iff.mpr ⟨bytes, hfile, hno, hdecode⟩
    cases hlists.patternsIn_eq.symm.trans herror
  · intro h
    rcases lists_or_isNoText tree path with hlists | ⟨bytes, _, hfile, hno, -⟩
    · exact hlists
    · exact absurd hno (h bytes hfile)

/-- What the files of names list, one after another. -/
def partsOf (tree : Node) (directory : Path) (names : List String) :
    Except Utf8.Malformed (List (List String)) :=
  names.mapM fun name => patternsIn tree (directory.resolve name)

private theorem load_eq (tree : Node) (directory : Path) (names : List String) :
    load tree directory names = (partsOf tree directory names).map List.flatten := by
  induction names with
  | nil => rfl
  | cons name names ih =>
    rw [load, ih, partsOf, partsOf, List.mapM_cons]
    cases patternsIn tree (directory.resolve name) with
    | error m => rfl
    | ok part => cases names.mapM fun name => patternsIn tree (directory.resolve name) <;> rfl

/-- Ignore files are read if each is a text or is not there, and only then. They give the patterns that
they list, in the order of their names. The first whose bytes are no text is the end of reading, and the
failure is that of its bytes. -/
theorem load_up_to_no_text (tree : Node) (directory : Path) (names : List String) :
    ((∃ patterns, load tree directory names = .ok patterns) ↔
      ∀ name ∈ names, ∀ bytes,
        tree.at? (directory.resolve name) = some (.file bytes) → ¬ IsNoText bytes) ∧
    (∀ patterns, load tree directory names = .ok patterns ↔
      ∃ parts, List.Forall₂ (fun name part => Lists tree (directory.resolve name) part) names parts ∧
        parts.flatten = patterns) ∧
    ∀ m, load tree directory names = .error m ↔
      ∃ before name after bytes, names = before ++ name :: after ∧
        (∀ earlier ∈ before, ∃ part, Lists tree (directory.resolve earlier) part) ∧
        tree.at? (directory.resolve name) = some (.file bytes) ∧ IsNoText bytes ∧
        Utf8.decode bytes = .error m := by
  refine ⟨?_, fun patterns => ?_, fun m => ?_⟩
  · simp only [← exists_lists_iff, ← patternsIn_eq_ok_iff]
    refine Iff.trans ?_ exists_mapM_ok_iff
    rw [load_eq]
    constructor
    · rintro ⟨patterns, h⟩
      obtain ⟨parts, hparts, -⟩ := map_eq_ok_iff.mp h
      exact ⟨parts, hparts⟩
    · rintro ⟨parts, hparts⟩
      exact ⟨parts.flatten, map_eq_ok_iff.mpr ⟨parts, hparts, rfl⟩⟩
  · rw [load_eq]
    simp only [map_eq_ok_iff, partsOf, mapM_eq_ok_iff, patternsIn_eq_ok_iff]
  · rw [load_eq, map_eq_error_iff, partsOf, mapM_eq_error_iff]
    simp only [patternsIn_eq_ok_iff, patternsIn_eq_error_iff]
    constructor
    · rintro ⟨before, name, after, hnames, hbefore, bytes, hfile⟩
      exact ⟨before, name, after, bytes, hnames, hbefore, hfile⟩
    · rintro ⟨before, name, after, bytes, hnames, hbefore, hfile⟩
      exact ⟨before, name, after, hnames, hbefore, bytes, hfile⟩

/-- A file with one stray byte keeps the patterns of another from being read. -/
theorem load_refuses_stray_byte :
    let tree : Node := .dir [(".gitignore", .file [0x61, 0xFF, 0x0A, 0x62]),
      (".dryignore", .file (Utf8.encode "x\n"))]
    IsNoText [0x61, 0xFF, 0x0A, 0x62] ∧ Lists tree [".dryignore"] ["x"] ∧
      load tree [] [".gitignore", ".dryignore"] = .error ⟨1, 1, 0xFF, .badStart⟩ := by
  intro tree
  have hletter : Utf8.pieces 0 [0x61, 0xFF, 0x0A, 0x62] =
      (0, .character 'a' 1) :: Utf8.pieces 1 [0xFF, 0x0A, 0x62] := by
    rw [Utf8.pieces]
    rfl
  have hstray : Utf8.pieces 1 [0xFF, 0x0A, 0x62] =
      (1, .malformed 1 .badStart) :: Utf8.pieces 2 [0x0A, 0x62] := by
    rw [Utf8.pieces]
    rfl
  have hdecode : Utf8.decode [0x61, 0xFF, 0x0A, 0x62] = .error ⟨1, 1, 0xFF, .badStart⟩ := by
    rw [Utf8.decode, Utf8.malformed?, hletter, hstray]
    rfl
  refine ⟨isNoText_iff.mpr ⟨_, hdecode⟩, ?_, ?_⟩
  · have hlisted : listed "x\n".toList = ["x"] := by decide +kernel
    exact hlisted ▸ .text "x\n" rfl
  · have hfile : patternsIn tree [".gitignore"] = .error ⟨1, 1, 0xFF, .badStart⟩ := by
      rw [patternsIn_of_file rfl, hdecode]
      rfl
    have hname : Path.resolve [] ".gitignore" = [".gitignore"] := by decide
    rw [load, hname, hfile]
    rfl

end Files

end CodeTwins.IgnoreFiles
