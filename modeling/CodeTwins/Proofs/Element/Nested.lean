import CodeTwins.Proofs.Element.Bodies
import CodeTwins.Proofs.Source.Nested

/-!
# Bodies inside of bodies

The bodies of elements are blocks of one text, so they are nested: whichever patterns elements are found
by, their bodies are the same, apart, or one inside of the other. Within the body of an element no match
lacks a body because its braces do not close.
-/
namespace CodeTwins.Extraction

open Source

section Bodies

variable {text : List Char} {included : List SignaturePattern} {origin : Origin} {e : Element}

/-- The span of the body of an element: the element is made of a match of one of the patterns, and its text
goes from there to the end of the block after the match. -/
def HasBody (text : List Char) (included : List SignaturePattern) (origin : Origin) (e : Element)
    (body : Nat × Nat) : Prop :=
  ∃ pattern ∈ included, ∃ m ∈ foundBy text pattern, ElementOf text origin m e ∧
    bodyStart text m.stop = some body.1 ∧ bodyEnd text body.1 = some body.2

/-- A body starts at a brace. -/
theorem getElem?_of_bodyStart {offset opening : Nat} (h : bodyStart text offset = some opening) :
    text[opening]? = some '{' := by
  obtain ⟨-, ⟨hopens, -⟩, -⟩ := bodyStart_eq_some_iff.mp h
  exact hopens

private theorem HasBody.isBody {body : Nat × Nat} (h : HasBody text included origin e body) :
    IsBody text body := by
  obtain ⟨pattern, hpattern, m, hm, hmade, hstart, hend⟩ := h
  exact ⟨getElem?_of_bodyStart hstart, hend⟩

private theorem hasBody_of_blockOf {isExcluded : List Char → Bool} {pattern : SignaturePattern}
    {m : Found} {opening closing : Nat} (hpattern : pattern ∈ included)
    (hm : m ∈ foundBy text pattern)
    (hblock : blockOf text isExcluded m = some (opening, closing)) :
    HasBody text included origin (elementOf text origin m closing) (opening, closing) := by
  obtain ⟨-, -, hstart, hend⟩ := blockOf_eq_some_iff.mp hblock
  exact ⟨pattern, hpattern, m, hm, elementOf_of_blockOf hblock, hstart, hend⟩

private theorem exists_hasBody {excluded : List SignaturePattern}
    (he : e ∈ elements text included excluded origin) :
    ∃ body, HasBody text included origin e body := by
  obtain ⟨m, hm, opening, closing, hblock, rfl⟩ := exists_found_of_mem he
  obtain ⟨pattern, hpattern, hfound⟩ := List.mem_flatMap.mp hm
  exact ⟨(opening, closing), hasBody_of_blockOf hpattern hfound hblock⟩

/-- A match that qualifies makes an element, unless another one makes an element at its start. -/
theorem exists_element_of_qualifies {excluded : List SignaturePattern} {pattern : SignaturePattern}
    {m : Found} (hpattern : pattern ∈ included) (hm : m ∈ foundBy text pattern)
    (hqualifies : Qualifies text (fun signature => excluded.any (·.occursIn signature)) m) :
    ∃ e ∈ elements text included excluded origin, ∃ m', m'.start = m.start ∧
      ElementOf text origin m' e := by
  have hkept : m ∈ (included.flatMap (foundBy text)).filter
      (Qualifies text fun signature => excluded.any (·.occursIn signature)) :=
    List.mem_filter.mpr ⟨List.mem_flatMap.mpr ⟨pattern, hpattern, hm⟩, decide_eq_true hqualifies⟩
  obtain ⟨m', hfirst, hstart⟩ :=
    exists_firstAfter_iff.mpr ⟨⟨m, hkept, rfl⟩, List.forall_mem_nil _⟩
  have htaken : m' ∈ taken text included excluded := hfirst
  obtain ⟨e, hmem, hmade⟩ := exists_element_of_mem_taken origin htaken
  exact ⟨e, (List.of_mem_zip hmem).2, m', hstart, hmade⟩

end Bodies

/-- A brace within a block opens a block that ends before the other one does. So any two bodies of elements
of one text, whichever patterns they are found by, are the same, apart, or one inside of the other. From
a brace within the body of an element a block is found, and a match that would have its body there makes
an element, unless it is excluded, in a comment, or not the first at its start. -/
theorem bodies_nested (content : String) :
    let text := content.toList
    (∀ first second stop, text[first]? = some '{' → text[second]? = some '{' →
      bodyEnd text first = some stop → first < second → second < stop →
        ∃ innerStop, bodyEnd text second = some innerStop ∧ innerStop < stop) ∧
    (∀ included origin e s included' origin' e' t, HasBody text included origin e s →
      HasBody text included' origin' e' t → Nested s t) ∧
    ∀ includes excludes included excluded origin, SignaturePattern.compileAll includes = .ok included →
      SignaturePattern.compileAll excludes = .ok excluded →
        ∃ es, extract content includes excludes origin = .ok es ∧
          (∀ e ∈ es, ∃ body, HasBody text included origin e body) ∧
          ∀ e ∈ es, ∀ body, HasBody text included origin e body → ∀ opening, body.1 ≤ opening →
            opening < body.2 →
              (text[opening]? = some '{' →
                ∃ closing, bodyEnd text opening = some closing ∧ closing ≤ body.2) ∧
              ∀ pattern ∈ included, ∀ m ∈ foundBy text pattern, bodyStart text m.stop = some opening →
                excluded.any (·.occursIn (slice text m.start m.stop)) = false →
                  isInsideComment text m.start = false →
                    ∃ e' ∈ es, ∃ m', m'.start = m.start ∧ ElementOf text origin m' e' := by
  intro text
  refine ⟨?_, ?_, ?_⟩
  · intro first second stop hfirst hsecond hstop hlt hinside
    exact exists_bodyEnd_lt hfirst hsecond hstop hlt hinside
  · intro included origin e s included' origin' e' t hs ht
    exact hs.isBody.nested ht.isBody
  · intro includes excludes included excluded origin hincluded hexcluded
    refine ⟨_, extract_of_compileAll hincluded hexcluded content origin, ?_, ?_⟩
    · intro e he
      exact exists_hasBody he
    · intro e he body hbody opening hle hlt
      refine ⟨fun hopening => hbody.isBody.exists_bodyEnd hopening hle hlt, ?_⟩
      intro pattern hpattern m hm hstart hkept hcomment
      have hopening := getElem?_of_bodyStart hstart
      obtain ⟨closing, hend, -⟩ := hbody.isBody.exists_bodyEnd hopening hle hlt
      exact exists_element_of_qualifies hpattern hm ⟨hkept, hcomment, opening, closing, hstart, hend⟩

/-- One body inside of another, found by a pattern each: the first element does not take the second's place. -/
theorem bodies_nested_inner :
    let content := "a\x7bb\x7b\x7d\x7d"
    let text := content.toList
    let outer : SignaturePattern := ⟨"a", .letter (.among [.code 97] false .exact), 0⟩
    let inner : SignaturePattern := ⟨"b", .letter (.among [.code 98] false .exact), 0⟩
    let a : Element := ⟨⟨"", 1, "a", none, none, none⟩, "a\x7bb\x7b\x7d\x7d"⟩
    let b : Element := ⟨⟨"", 1, "b", none, none, none⟩, "b\x7b\x7d"⟩
    text[1]? = some '{' ∧ text[3]? = some '{' ∧ bodyEnd text 1 = some 6 ∧
      (∃ innerStop, bodyEnd text 3 = some innerStop ∧ innerStop < 6) ∧
      SignaturePattern.compileAll ["a", "b"] = .ok [outer, inner] ∧
      SignaturePattern.compileAll [] = .ok [] ∧
      HasBody text [outer, inner] {} a (1, 6) ∧ HasBody text [outer, inner] {} b (3, 5) ∧
      Nested (1, 6) (3, 5) ∧
      ∃ es, extract content ["a", "b"] [] {} = .ok es ∧
        ∃ e ∈ es, ∃ m, m.start = 2 ∧ ElementOf text {} m e := by
  intro content text outer inner a b
  have hfirst : text[1]? = some '{' := by decide
  have hsecond : text[3]? = some '{' := by decide
  have hstop : bodyEnd text 1 = some 6 := by decide
  have hincluded : SignaturePattern.compileAll ["a", "b"] = .ok [outer, inner] := by decide +kernel
  have hexcluded : SignaturePattern.compileAll [] = .ok [] := rfl
  have hextract : extract content ["a", "b"] [] {} = .ok [a, b] := by decide +kernel
  have hm : ⟨2, 3, none⟩ ∈ foundBy text inner := by decide +kernel
  have hblock : blockOf text (fun _ => false) ⟨0, 1, none⟩ = some (1, 6) := by decide
  have hblock' : blockOf text (fun _ => false) ⟨2, 3, none⟩ = some (3, 5) := by decide
  have ha : HasBody text [outer, inner] {} a (1, 6) := by
    have helement : a = elementOf text {} ⟨0, 1, none⟩ 6 := by decide +kernel
    rw [helement]
    exact hasBody_of_blockOf (.head _) (by decide +kernel) hblock
  have hb : HasBody text [outer, inner] {} b (3, 5) := by
    have helement : b = elementOf text {} ⟨2, 3, none⟩ 5 := by decide +kernel
    rw [helement]
    exact hasBody_of_blockOf (.tail _ (.head _)) hm hblock'
  obtain ⟨hends, hnested, hinside⟩ := bodies_nested content
  refine ⟨hfirst, hsecond, hstop, hends 1 3 6 hfirst hsecond hstop (by decide) (by decide),
    hincluded, hexcluded, ha, hb, hnested _ _ _ _ _ _ _ _ ha hb, ?_⟩
  obtain ⟨es, hes, -, hmade⟩ := hinside _ _ _ _ {} hincluded hexcluded
  obtain rfl := Except.ok.inj (hes.symm.trans hextract)
  exact ⟨_, hes, (hmade a (.head _) (1, 6) ha 3 (by decide) (by decide)).2 inner (.tail _ (.head _))
    ⟨2, 3, none⟩ hm (by decide) (by decide) (by decide)⟩

end CodeTwins.Extraction
