import CodeTwins.Proofs.Element.Selection
import CodeTwins.Proofs.Source.Comment

/-!
# Elements and comments

An element is made of a match that is judged to start outside of comments. So none starts in a comment,
whichever patterns are in use, but for one that starts at the slash by which the comment ends.
-/
namespace CodeTwins.Extraction

open Source

/-- No element starts in a line comment, and one that starts in a block comment starts at the slash by
which it ends. -/
theorem elements_outside_comments {content : String} {includes excludes : List String}
    {origin : Origin} {es : List Element} (h : extract content includes excludes origin = .ok es) :
    ∃ included excluded, SignaturePattern.compileAll includes = .ok included ∧
      SignaturePattern.compileAll excludes = .ok excluded ∧
      let text := content.toList
      List.Forall₂ (ElementOf text origin) (taken text included excluded) es ∧
      ∀ m ∈ taken text included excluded,
        scan (text.take m.start) ≠ .line ∧
        ((scan (text.take m.start)).InBlock →
          0 < m.start ∧ text[m.start - 1]? = some '*' ∧ text[m.start]? = some '/' ∧
            scan (text.take (m.start + 1)) = .code) := by
  obtain ⟨included, excluded, hincluded, hexcluded, rfl⟩ := extract_ok h
  refine ⟨included, excluded, hincluded, hexcluded, forall₂_elements _ _ _ _, fun m hm => ?_⟩
  exact scan_of_isInsideComment_eq_false (qualifies_of_mem_taken hm).2.1

/-- An element that starts at the slash by which a comment ends, and a match in the line comment after it
of which no element is made. -/
theorem elements_outside_comments_closing_slash :
    let content := "/* */f()\x7b\x7d // /f()\x7b\x7d"
    let text := content.toList
    let e : Element := ⟨⟨"", 1, "/f(", none, none, none⟩, "/f()\x7b\x7d"⟩
    extract content ["/f\\("] [] {} = .ok [e] ∧ (scan (text.take 4)).InBlock ∧
      text[3]? = some '*' ∧ text[4]? = some '/' := by
  intro content text e
  have hstarts : ((SignaturePattern.compileAll ["/f\\("]).toOption.map fun included =>
      (taken text included []).map (·.start)) = some [4] := by decide +kernel
  have hextract : extract content ["/f\\("] [] {} = .ok [e] := by decide +kernel
  obtain ⟨included, excluded, hincluded, hexcluded, -, houtside⟩ := elements_outside_comments hextract
  obtain rfl : [] = excluded := Except.ok.inj hexcluded
  rw [hincluded] at hstarts
  obtain ⟨m, hm, hstart⟩ := List.mem_map.mp (Option.some.inj hstarts ▸ List.mem_singleton_self 4)
  have hblock : (scan (text.take 4)).InBlock := by decide
  have hclosed := (houtside m hm).2
  rw [hstart] at hclosed
  obtain ⟨-, hstar, hslash, -⟩ := hclosed hblock
  exact ⟨hextract, hblock, hstar, hslash⟩

end CodeTwins.Extraction
