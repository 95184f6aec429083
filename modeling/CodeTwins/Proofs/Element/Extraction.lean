import CodeTwins.Element.Extraction
import CodeTwins.Proofs.Pattern.Match
import CodeTwins.Proofs.Source.Block

/-!
# What an extracted element is made of

Each element comes from a match and the block after it, which ends after the match starts. So no
element is without a text.
-/
namespace CodeTwins.Extraction

open Source

variable {text : List Char} {isExcluded : List Char → Bool} {origin : Origin} {e : Element}

theorem exists_found_of_mem {claimed : List Nat} {ms : List Found}
    (h : e ∈ elementsFrom text isExcluded origin claimed ms) :
    ∃ m ∈ ms, ∃ opening closing, blockOf text isExcluded m = some (opening, closing) ∧
      e = elementOf text origin m closing := by
  induction ms generalizing claimed with
  | nil => cases h
  | cons m ms ih =>
    have hlater : ∀ {claimed}, e ∈ elementsFrom text isExcluded origin claimed ms →
        ∃ m' ∈ m :: ms, ∃ opening closing, blockOf text isExcluded m' = some (opening, closing) ∧
          e = elementOf text origin m' closing := by
      intro claimed h
      obtain ⟨m', hm', hblock⟩ := ih h
      exact ⟨m', .tail _ hm', hblock⟩
    unfold elementsFrom at h
    split at h
    case h_1 => exact hlater h
    case h_2 opening closing hblock =>
      split at h
      · exact hlater h
      · rcases List.mem_cons.mp h with rfl | h
        · exact ⟨m, .head _, opening, closing, hblock, rfl⟩
        · exact hlater h

private theorem blockOf_bounds {m : Found} {opening closing : Nat}
    (h : blockOf text isExcluded m = some (opening, closing)) :
    m.stop ≤ opening ∧ opening < closing ∧ closing ≤ text.length := by
  unfold blockOf at h
  split at h
  · cases h
  · split at h
    · cases h
    · obtain ⟨opening', hopening, h⟩ := Option.bind_eq_some_iff.mp h
      obtain ⟨closing', hclosing, h⟩ := Option.bind_eq_some_iff.mp h
      cases h
      exact ⟨le_bodyStart hopening, lt_bodyEnd hclosing, bodyEnd_le hclosing⟩

theorem start_le_stop_of_foundBy {p : SignaturePattern} {m : Found} (h : m ∈ foundBy text p) :
    m.start ≤ m.stop := by
  obtain ⟨found, hfound, rfl⟩ := List.mem_map.mp h
  exact Pattern.Expr.start_le_stop hfound

private theorem slice_ne_nil {start stop : Nat} (hlt : start < stop) (hle : stop ≤ text.length) :
    slice text start stop ≠ [] := by
  intro h
  have hlength := congrArg List.length h
  simp only [slice, List.length_drop, List.length_take, List.length_nil] at hlength
  omega

section Extract

variable {content : String} {includes excludes : List String} {es : List Element}

theorem extract_ok (h : extract content includes excludes origin = .ok es) :
    ∃ included excluded, SignaturePattern.compileAll includes = .ok included ∧
      SignaturePattern.compileAll excludes = .ok excluded ∧
      es = elements content.toList included excluded origin := by
  unfold extract at h
  cases hincluded : SignaturePattern.compileAll includes with
  | error bad =>
    rw [hincluded] at h
    cases h
  | ok included =>
    cases hexcluded : SignaturePattern.compileAll excludes with
    | error bad =>
      rw [hincluded, hexcluded] at h
      cases h
    | ok excluded =>
      rw [hincluded, hexcluded] at h
      cases h
      exact ⟨included, excluded, rfl, rfl, rfl⟩

theorem extract_of_compileAll {included excluded : List SignaturePattern}
    (hincluded : SignaturePattern.compileAll includes = .ok included)
    (hexcluded : SignaturePattern.compileAll excludes = .ok excluded) (content : String)
    (origin : Origin) :
    extract content includes excludes origin =
      .ok (elements content.toList included excluded origin) := by
  unfold extract
  rw [hincluded, hexcluded]
  rfl

/-- An extracted element is that of a match, up to a position after its start. -/
theorem exists_span_of_mem (h : extract content includes excludes origin = .ok es) (he : e ∈ es) :
    ∃ m closing, e = elementOf content.toList origin m closing ∧ m.start < closing ∧
      closing ≤ content.toList.length := by
  obtain ⟨included, excluded, -, -, rfl⟩ := extract_ok h
  obtain ⟨m, hm, opening, closing, hblock, rfl⟩ := exists_found_of_mem he
  obtain ⟨p, -, hp⟩ := List.mem_flatMap.mp hm
  have hstart := start_le_stop_of_foundBy hp
  obtain ⟨hopening, hclosing, hlength⟩ := blockOf_bounds hblock
  exact ⟨m, closing, rfl, by omega, hlength⟩

/-- An extracted element has a text. -/
theorem text_ne_empty (h : extract content includes excludes origin = .ok es) (he : e ∈ es) :
    e.text ≠ "" := by
  obtain ⟨m, closing, rfl, hlt, hlength⟩ := exists_span_of_mem h he
  have hslice := slice_ne_nil hlt hlength
  intro htext
  have htext : String.ofList (slice content.toList m.start closing) = "" := htext
  exact hslice (by simpa using congrArg String.toList htext)

/-- The line of an extracted element is one of those that the content may have. -/
theorem lineNumber_bounds (h : extract content includes excludes origin = .ok es) (he : e ∈ es) :
    1 ≤ e.metadata.lineNumber ∧ e.metadata.lineNumber ≤ content.toList.length := by
  obtain ⟨m, closing, rfl, hlt, hlength⟩ := exists_span_of_mem h he
  have hcount : (content.toList.take m.start).count '\n' ≤ m.start :=
    Nat.le_trans List.count_le_length (List.length_take_le _ _)
  simp only [elementOf, lineOf]
  omega

end Extract

end CodeTwins.Extraction
