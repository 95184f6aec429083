import CodeTwins.Proofs.Element.Selection
import CodeTwins.Proofs.Source.Balanced
import CodeTwins.Proofs.Traversal

/-!
# Bodies of elements

The text of an element is a signature, a gap, and a balanced block. The block is the one that counting
braces finds, and the gap is what may stand before its opening brace.
-/
namespace CodeTwins.Extraction

open Source

/-- The text from a match to the end of its block, cut where the match ends and where the block
begins. -/
theorem ElementOf.parts {text : List Char} {origin : Origin} {m : Found} {e : Element}
    (he : ElementOf text origin m e) (hm : m.start ≤ m.stop) :
    ∃ opening closing, e.text.toList = slice text m.start m.stop ++
        (slice text m.stop opening ++ slice text opening closing) ∧
      Opens text opening ∧ IsGap text m.stop opening ∧ IsBlock (slice text opening closing) := by
  obtain ⟨opening, closing, hopening, hclosing, htext⟩ := he.block
  obtain ⟨hle, hopens, hgap⟩ := bodyStart_eq_some_iff.mp hopening
  have hlt := lt_bodyEnd hclosing
  have hblock := ((bodyEnd_eq_some_iff hopens.1).mp hclosing).2
  refine ⟨opening, closing, ?_, hopens, hgap, hblock⟩
  rw [slice_append_slice text hle (Nat.le_of_lt hlt), slice_append_slice text hm (by omega), htext,
    String.toList_ofList]

/-- Every element that is made is made by one of the matches. -/
theorem exists_elementOf_of_mem {text : List Char} {isExcluded : List Char → Bool} {origin : Origin}
    {claimed : List Nat} {ms : List Found} {e : Element}
    (h : e ∈ elementsFrom text isExcluded origin claimed ms) :
    ∃ m ∈ ms, ElementOf text origin m e := by
  obtain ⟨m, hm, opening, closing, hblock, rfl⟩ := exists_found_of_mem h
  exact ⟨m, hm, elementOf_of_blockOf hblock⟩

/-- Bodies are exactly the balanced blocks: from a brace on, the one prefix that is a block is found,
and none if there is none; the brace is the first that is not escaped, with only a gap before it. So an
element is the text of a match, a gap and a block. -/
theorem bodies_balanced (content : String) :
    let text := content.toList
    (∀ start, text[start]? = some '{' →
      (∀ stop, bodyEnd text start = some stop ↔
        stop ≤ text.length ∧ IsBlock (slice text start stop)) ∧
      (∀ stop stop', stop ≤ text.length → stop' ≤ text.length → IsBlock (slice text start stop) →
        IsBlock (slice text start stop') → stop = stop') ∧
      (bodyEnd text start = none ↔ ∀ block, block <+: text.drop start → ¬ IsBlock block)) ∧
    (∀ offset start, bodyStart text offset = some start ↔
      offset ≤ start ∧ Opens text start ∧ IsGap text offset start) ∧
    ∀ includes excludes origin es, extract content includes excludes origin = .ok es → ∀ e ∈ es,
      ∃ source ∈ includes, ∃ pattern, SignaturePattern.compile source = .ok pattern ∧
        ∃ m ∈ foundBy text pattern, ∃ opening closing,
          e.text.toList = slice text m.start m.stop ++
            (slice text m.stop opening ++ slice text opening closing) ∧
          Opens text opening ∧ IsGap text m.stop opening ∧ IsBlock (slice text opening closing) := by
  intro text
  refine ⟨fun start hstart => ⟨fun stop => bodyEnd_eq_some_iff hstart, ?_,
    bodyEnd_eq_none_iff hstart⟩, fun offset start => bodyStart_eq_some_iff, ?_⟩
  · intro stop stop' hstop hstop' hblock hblock'
    have hend := (bodyEnd_eq_some_iff hstart).mpr ⟨hstop, hblock⟩
    have hend' := (bodyEnd_eq_some_iff hstart).mpr ⟨hstop', hblock'⟩
    exact Option.some.inj (hend.symm.trans hend')
  · intro includes excludes origin es hextract e he
    obtain ⟨included, excluded, hincluded, -, rfl⟩ := extract_ok hextract
    obtain ⟨m, hm, hmade⟩ := exists_elementOf_of_mem he
    obtain ⟨pattern, hpattern, hfound⟩ := List.mem_flatMap.mp hm
    obtain ⟨source, hsource, hcompile⟩ := exists_of_mem_mapM hincluded hpattern
    exact ⟨source, hsource, pattern, hcompile, m, hfound,
      hmade.parts (start_le_stop_of_foundBy hfound)⟩

/-- An escaped brace stands in the gap and a block in the block, a comment is of no account, and neither
is what comes after the block. -/
theorem bodies_balanced_nested :
    let content := "f() \\\x7b \x7ba\x7b\x7d//\x7d;"
    let text := content.toList
    let e : Element := ⟨⟨"", 1, "f()", none, none, none⟩, "f() \\\x7b \x7ba\x7b\x7d//\x7d"⟩
    text[7]? = some '{' ∧ bodyEnd text 7 = some 14 ∧ IsBlock (slice text 7 14) ∧
      extract content ["f\\(\\)"] [] {} = .ok [e] ∧ ∃ opening closing,
        Opens text opening ∧ IsBlock (slice text opening closing) := by
  intro content text e
  have hopen : text[7]? = some '{' := by decide
  have hend : bodyEnd text 7 = some 14 := by decide
  have hextract : extract content ["f\\(\\)"] [] {} = .ok [e] := by decide +kernel
  obtain ⟨hends, -, hextracted⟩ := bodies_balanced content
  obtain ⟨-, -, -, -, -, -, opening, closing, -, hopens, -, hbalanced⟩ :=
    hextracted _ _ _ _ hextract e (.head _)
  have hblock := (((hends 7 hopen).1 14).mp hend).2
  exact ⟨hopen, hend, hblock, hextract, opening, closing, hopens, hbalanced⟩

end CodeTwins.Extraction
