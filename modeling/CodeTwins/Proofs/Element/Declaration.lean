import CodeTwins.Language
import CodeTwins.Proofs.Element.Comments
import CodeTwins.Proofs.Pattern.Heads
import CodeTwins.Proofs.Source.Balanced

/-!
# Declarations of functions

A declaration of a function is a head, parameters and a body. Wherever it stands outside of comments, and
whatever comes before and after it, an element is made of it that is the whole declaration.
-/
namespace CodeTwins.Extraction

open Source Pattern Unicode

def functionKeyword : List Char :=
  "function".toList

/-- The pattern that finds declarations of functions. -/
def functionPattern : SignaturePattern :=
  ⟨"\\bfunction\\s+(\\w+)\\s*\\(", headExpr functionKeyword, 1⟩

private theorem mem_foundBy_functionPattern_iff {text : List Char} {m : Found} :
    m ∈ foundBy text functionPattern ↔
      ∃ nameStart nameStop paren, IsHead functionKeyword text m.start nameStart nameStop paren ∧
        m = ⟨m.start, paren + 1, some (slice text nameStart nameStop)⟩ := by
  have hmatches : ∀ {found : Match}, found ∈ (headExpr functionKeyword).matches text.toArray ↔ _ :=
    mem_matches_headExpr_iff (by decide) (by decide)
  constructor
  · intro h
    obtain ⟨found, hfound, rfl⟩ := List.mem_map.mp h
    obtain ⟨nameStart, nameStop, paren, hhead, hshape⟩ := hmatches.mp hfound
    refine ⟨nameStart, nameStop, paren, hhead, ?_⟩
    rw [hshape]
    rfl
  · rintro ⟨nameStart, nameStop, paren, hhead, hm⟩
    rw [hm]
    exact List.mem_map.mpr ⟨⟨m.start, paren + 1, [(1, nameStart, nameStop)]⟩,
      hmatches.mpr ⟨nameStart, nameStop, paren, hhead, rfl⟩, rfl⟩

private theorem slice_of_isPrefix {part text : List Char} {start : Nat}
    (h : part <+: text.drop start) : slice text start (start + part.length) = part := by
  rw [slice_eq_take_drop]
  exact (List.prefix_iff_eq_take.mp h).symm

/-- The parts of a declaration, after the keyword. The parameters go up to the body, so the parenthesis
that closes them and what may follow it are among them. -/
structure Declaration where
  gap : List Char
  name : List Char
  space : List Char
  params : List Char
  body : List Char
  gap_ne_nil : gap ≠ []
  gap_blank : gap.all isSpace = true
  name_ne_nil : name ≠ []
  name_word : name.all isWord = true
  space_blank : space.all isSpace = true
  params_plain : '{' ∉ params ∧ '}' ∉ params ∧ ';' ∉ params
  params_end : params.getLast? ≠ some '\\'
  body_block : IsBlock body

namespace Declaration

/-- The declaration up to the opening parenthesis. -/
def head (d : Declaration) : List Char :=
  functionKeyword ++ (d.gap ++ (d.name ++ (d.space ++ ['('])))

def whole (d : Declaration) : List Char :=
  d.head ++ (d.params ++ d.body)

/-- The match of the head of a declaration. -/
def found (d : Declaration) (start : Nat) : Found :=
  ⟨start, start + d.head.length, some d.name⟩

variable {d : Declaration} {text : List Char} {start : Nat}

section Head

variable (hhead : d.head <+: text.drop start)
  (hedge : 0 < start → (text[start - 1]?).any isWord = false)
include hhead hedge

private theorem isHead :
    IsHead functionKeyword text start
      (start + functionKeyword.length + d.gap.length)
      (start + functionKeyword.length + d.gap.length + d.name.length)
      (start + functionKeyword.length + d.gap.length + d.name.length + d.space.length) := by
  obtain ⟨hkeyword, hrest⟩ := append_isPrefix_drop_iff.mp hhead
  obtain ⟨hgap, hrest⟩ := append_isPrefix_drop_iff.mp hrest
  obtain ⟨hname, hrest⟩ := append_isPrefix_drop_iff.mp hrest
  obtain ⟨hspace, hparen⟩ := append_isPrefix_drop_iff.mp hrest
  have hfirst : (text[start]?).any isWord = true := by
    rw [(cons_isPrefix_drop_iff.mp hkeyword).1]
    decide
  exact {
    edge := (holds_wordEdge_iff hfirst).mpr hedge
    begins := hkeyword
    gap := .of_isPrefix hgap d.gap_blank
    gap_pos := Nat.lt_add_of_pos_right (List.length_pos_iff.mpr d.gap_ne_nil)
    name := .of_isPrefix hname d.name_word
    name_pos := Nat.lt_add_of_pos_right (List.length_pos_iff.mpr d.name_ne_nil)
    space := .of_isPrefix hspace d.space_blank
    paren := (cons_isPrefix_drop_iff.mp hparen).1 }

/-- The head of a declaration is matched, and there is no other match where it starts. -/
theorem mem_foundBy_iff {m : Found} (hstart : m.start = start) :
    m ∈ foundBy text functionPattern ↔ m = d.found start := by
  have hishead := isHead hhead hedge
  obtain ⟨-, hrest⟩ := append_isPrefix_drop_iff.mp hhead
  obtain ⟨-, hrest⟩ := append_isPrefix_drop_iff.mp hrest
  have hname := slice_of_isPrefix (append_isPrefix_drop_iff.mp hrest).1
  have hstop : start + functionKeyword.length + d.gap.length + d.name.length + d.space.length + 1 =
      start + d.head.length := by
    simp only [head, List.length_append, List.length_singleton]
    omega
  rw [mem_foundBy_functionPattern_iff]
  constructor
  · rintro ⟨nameStart, nameStop, paren, h, hm⟩
    rw [hstart] at h hm
    obtain ⟨rfl, rfl, rfl⟩ := hishead.unique h
    rw [hm, hname, hstop, found]
  · rintro rfl
    refine ⟨_, _, _, hishead, ?_⟩
    rw [hname, hstop]
    rfl

end Head

section Whole

variable (hwhole : d.whole <+: text.drop start)
include hwhole

/-- The first brace after the head is that of the body, since none stands in the parameters. -/
theorem bodyStart_eq :
    bodyStart text (start + d.head.length) = some (start + d.head.length + d.params.length) := by
  have hfront : d.head ++ d.params <+: text.drop start := by
    rw [whole, ← List.append_assoc] at hwhole
    exact (append_isPrefix_drop_iff.mp hwhole).1
  obtain ⟨-, hrest⟩ := append_isPrefix_drop_iff.mp hwhole
  obtain ⟨hparams, hbody⟩ := append_isPrefix_drop_iff.mp hrest
  have hlast : (d.head ++ d.params).getLast? ≠ some '\\' := by
    have hparen : d.head.getLast? = some '(' := by
      simp [head, ← List.append_assoc]
    rw [List.getLast?_append, hparen]
    cases hend : d.params.getLast? with
    | none => simp
    | some c => simpa [hend] using d.params_end
  refine bodyStart_eq_some_iff.mpr ⟨Nat.le_add_right _ _, ⟨?_, ?_⟩, fun i hi hlt => ?_⟩
  · obtain ⟨inner, -, hblock⟩ := d.body_block
    rw [hblock] at hbody
    exact (cons_isPrefix_drop_iff.mp hbody).1
  · rintro ⟨-, hescape⟩
    rw [Nat.add_assoc, ← List.length_append, getElem?_last_of_isPrefix hfront (by simp [head])] at hescape
    exact hlast hescape
  · obtain ⟨j, rfl⟩ := Nat.exists_eq_add_of_le hi
    have hj : j < d.params.length := by omega
    have hc := getElem?_of_isPrefix hparams hj
    rw [List.getElem?_eq_getElem hj] at hc
    have hne : ∀ {c}, c ∉ d.params → d.params[j] ≠ c := fun hc heq => hc (heq ▸ List.getElem_mem hj)
    obtain ⟨hopen, hclose, hsemicolon⟩ := d.params_plain
    simp [Opens, hc, hne hopen, hne hclose, hne hsemicolon]

private theorem bodyEnd_eq :
    bodyEnd text (start + d.head.length + d.params.length) = some (start + d.whole.length) := by
  obtain ⟨-, hrest⟩ := append_isPrefix_drop_iff.mp hwhole
  obtain ⟨-, hbody⟩ := append_isPrefix_drop_iff.mp hrest
  have hlength : start + d.whole.length = start + d.head.length + d.params.length + d.body.length := by
    simp only [whole, List.length_append]
    omega
  obtain ⟨after, hafter⟩ := hbody
  rw [bodyEnd, ← hafter, closeLength_block d.body_block, hlength]
  rfl

end Whole

/-- Outside of comments, the match of a declaration is taken. -/
theorem found_mem_taken (hwhole : d.whole <+: text.drop start)
    (hedge : 0 < start → (text[start - 1]?).any isWord = false)
    (hcode : isInsideComment text start = false) (rest : List SignaturePattern) :
    d.found start ∈ taken text (functionPattern :: rest) [] := by
  have hhead := (append_isPrefix_drop_iff.mp hwhole).1
  refine mem_taken_cons ((mem_foundBy_iff hhead hedge rfl).mpr rfl) ?_ fun m hm hstart => ?_
  · exact ⟨rfl, hcode, _, _, bodyStart_eq hwhole, bodyEnd_eq hwhole⟩
  · exact (mem_foundBy_iff hhead hedge hstart).mp hm

/-- The element of the match is the whole declaration. -/
theorem elementOf_found (hwhole : d.whole <+: text.drop start) {origin : Origin} {e : Element}
    (he : ElementOf text origin (d.found start) e) :
    e.metadata.elementName = String.ofList d.name ∧ e.text = String.ofList d.whole ∧
      e.metadata.lineNumber = (text.take start).count '\n' + 1 := by
  refine ⟨he.named d.name rfl d.name_ne_nil, ?_, he.line⟩
  obtain ⟨opening, closing, hopening, hclosing, htext⟩ := he.block
  obtain rfl := Option.some.inj ((bodyStart_eq hwhole).symm.trans hopening)
  obtain rfl := Option.some.inj ((bodyEnd_eq hwhole).symm.trans hclosing)
  rw [htext]
  exact congrArg String.ofList (slice_of_isPrefix hwhole)

end Declaration

private theorem compileAll_javascript :
    ∃ rest, SignaturePattern.compileAll Language.javascript.includes = .ok (functionPattern :: rest) := by
  have hfirst : ((SignaturePattern.compileAll Language.javascript.includes).toOption.bind
      List.head?) = some functionPattern := by
    decide +kernel
  cases hcompiled : SignaturePattern.compileAll Language.javascript.includes with
  | error bad =>
    rw [hcompiled] at hfirst
    cases hfirst
  | ok included =>
    rw [hcompiled] at hfirst
    exact ⟨included.tail, congrArg Except.ok (List.eq_cons_of_mem_head? hfirst)⟩

/-- A declaration of a function is found, with its name, its whole text and the line where it starts. -/
theorem declaration_found (d : Declaration) (pre post : List Char) (origin : Origin)
    (hedge : (pre.getLast?).any isWord = false)
    (hcode : isInsideComment (pre ++ d.whole ++ post) pre.length = false) :
    let text := pre ++ d.whole ++ post
    ∃ language included excluded es, Registry.builtIn.find? "ts" = some language ∧
      SignaturePattern.compileAll language.includes = .ok included ∧
      SignaturePattern.compileAll language.excludes = .ok excluded ∧
      extract (String.ofList text) language.includes language.excludes origin = .ok es ∧
      ∃ m e, (m, e) ∈ (taken text included excluded).zip es ∧ ElementOf text origin m e ∧
        m.start = pre.length ∧ e.metadata.elementName = String.ofList d.name ∧
        e.text = String.ofList d.whole ∧ e.metadata.lineNumber = pre.count '\n' + 1 := by
  intro text
  obtain ⟨rest, hincluded⟩ := compileAll_javascript
  have htext : text = pre ++ (d.whole ++ post) := List.append_assoc _ _ _
  have hwhole : d.whole <+: text.drop pre.length := by
    rw [htext, List.drop_left]
    exact List.prefix_append _ _
  have hbefore : 0 < pre.length → (text[pre.length - 1]?).any isWord = false := by
    intro hpos
    rw [htext, List.getElem?_append_left (by omega), ← List.getLast?_eq_getElem?]
    exact hedge
  have htaken := Declaration.found_mem_taken hwhole hbefore hcode rest
  obtain ⟨e, hmem, he⟩ := exists_element_of_mem_taken origin htaken
  obtain ⟨hname, hwholeText, hline⟩ := Declaration.elementOf_found hwhole he
  rw [htext, List.take_left] at hline
  have hexcluded : SignaturePattern.compileAll Language.javascript.excludes = .ok [] := rfl
  have hextract := extract_of_compileAll hincluded hexcluded (String.ofList text) origin
  rw [String.toList_ofList] at hextract
  exact ⟨Language.javascript, functionPattern :: rest, [], _, by decide +kernel, hincluded, hexcluded,
    hextract, _, e, hmem, he, rfl, hname, hwholeText, hline⟩

/-- A declaration after a keyword that could start a match, and before a brace that closes nothing. -/
theorem declaration_found_after_keyword :
    ∃ d : Declaration, d.whole = "function f (a)\x7b\x7d".toList ∧
      ∃ language es, Registry.builtIn.find? "ts" = some language ∧
        extract "function\nfunction f (a)\x7b\x7d\x7d" language.includes language.excludes {} = .ok es ∧
        ∃ e ∈ es, e.metadata.elementName = "f" ∧ e.text = "function f (a)\x7b\x7d" ∧
          e.metadata.lineNumber = 2 := by
  let d : Declaration :=
    { gap := [' ']
      name := ['f']
      space := [' ']
      params := ['a', ')']
      body := ['{', '}']
      gap_ne_nil := by decide
      gap_blank := by decide
      name_ne_nil := by decide
      name_word := by decide
      space_blank := by decide
      params_plain := by decide
      params_end := by decide
      body_block := ⟨[], .nil, rfl⟩ }
  obtain ⟨language, _, _, es, hfind, -, -, hextract, _, e, hmem, -, -, hname, htext, hline⟩ :=
    declaration_found d "function\n".toList ['}'] {} (by decide) (by decide)
  exact ⟨d, rfl, language, es, hfind, hextract, e, (List.of_mem_zip hmem).2, hname, htext, hline⟩

end CodeTwins.Extraction
