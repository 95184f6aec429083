import CodeTwins.Proofs.Pattern.Leftmost
import CodeTwins.Proofs.Pattern.Runs

/-!
# Heads of declarations

A keyword, a name and an opening parenthesis, with blanks between them. Where a head starts, only one is
possible, since neither blanks nor the parenthesis can stand in a name; and no head starts within another,
since it would start in the name of that one, which then had no parenthesis after it. So each head of a
text is found, whatever stands before it.
-/
namespace CodeTwins.Pattern

open Unicode

section Classes

private theorem isWord_ofNat_of_space :
    ∀ n ∈ spaceRanges.flatMap fun r => List.range' r.1 (r.2 + 1 - r.1), isWord (.ofNat n) = false := by
  decide +kernel

/-- A blank is no part of a word. -/
theorem isWord_of_isSpace {c : Char} (h : isSpace c = true) : isWord c = false := by
  obtain ⟨r, hr, hle⟩ := List.any_eq_true.mp h
  simp only [Bool.and_eq_true, decide_eq_true_eq] at hle
  rw [← Char.ofNat_toNat c]
  refine isWord_ofNat_of_space _ (List.mem_flatMap.mpr ⟨r, hr, List.mem_range'_1.mpr ?_⟩)
  omega

private theorem any_isWord_of_isSpace {o : Option Char} (h : o.any isSpace = true) :
    o.any isWord = false := by
  obtain ⟨c, rfl, hc⟩ := (Option.any_eq_true _ _).mp h
  exact isWord_of_isSpace hc

private theorem any_isSpace_of_isWord {o : Option Char} (h : o.any isWord = true) :
    o.any isSpace = false := by
  rw [← Bool.not_eq_true]
  intro hspace
  rw [any_isWord_of_isSpace hspace] at h
  cases h

end Classes

variable {keyword text : List Char}

/-- A word has its first edge where no other part of a word comes before it. -/
theorem holds_wordEdge_iff {i : Nat} (h : (text[i]?).any isWord = true) :
    (Place.wordEdge false false).holds text.toArray i = true ↔
      (0 < i → (text[i - 1]?).any isWord = false) := by
  have hsize : text ≠ [] := by
    rintro rfl
    cases h
  have hhas : Kind.word.has false = isWord := rfl
  by_cases hi : i = 0
  · subst hi
    simp [Place.holds, letterBefore, letterAt, hhas, h, hsize]
  · simp [Place.holds, letterBefore, letterAt, hhas, h, hsize, hi, Nat.pos_of_ne_zero hi]

/-- A keyword, blanks, a name, blanks if any, and an opening parenthesis. The keyword stands at the edge
of a word. -/
structure IsHead (keyword text : List Char) (start nameStart nameStop paren : Nat) : Prop where
  edge : (Place.wordEdge false false).holds text.toArray start = true
  begins : keyword <+: text.drop start
  gap : IsRun isSpace text (start + keyword.length) nameStart
  gap_pos : start + keyword.length < nameStart
  name : IsRun isWord text nameStart nameStop
  name_pos : nameStart < nameStop
  space : IsRun isSpace text nameStop paren
  paren : text[paren]? = some '('

/-- The expression for the heads of declarations with a keyword. The name is the first group. -/
def headExpr (keyword : List Char) : Expr :=
  let blank := Expr.letter (.among [.kind .space false false] false .exact)
  let word := Expr.letter (.among [.kind .word false false] false .exact)
  .ofList <| .place (.wordEdge false false) :: (literals keyword ++
    [.rep 1 none .greedy blank, .group 1 (.rep 1 none .greedy word), .rep 0 none .greedy blank,
      literal {} '('.toNat])

private theorem spans_headExpr_iff {start : Nat} {m : Mark} :
    (headExpr keyword).Spans text.toArray ⟨start, []⟩ m ↔
      ∃ nameStart nameStop paren, IsHead keyword text start nameStart nameStop paren ∧
        m = ⟨paren + 1, [(1, nameStart, nameStop)]⟩ := by
  rw [headExpr, spans_ofList_cons]
  simp only [spans_ofList_append, spans_ofList_cons, spans_literals_iff, spans_literal_iff,
    spans_rep_kind_iff]
  constructor
  · rintro ⟨_, ⟨hedge, rfl⟩, _, ⟨hbegins, rfl⟩, _, ⟨nameStart, hgap_pos, hgap, rfl⟩, _,
      ⟨_, hgroup, rfl⟩, _, ⟨paren, -, hspace, rfl⟩, _, ⟨hparen, rfl⟩, rfl⟩
    obtain ⟨nameStop, hname_pos, hname, rfl⟩ := spans_rep_kind_iff.mp hgroup
    exact ⟨nameStart, nameStop, paren,
      ⟨hedge, hbegins, hgap, hgap_pos, hname, hname_pos, hspace, hparen⟩, rfl⟩
  · rintro ⟨nameStart, nameStop, paren, h, rfl⟩
    exact ⟨_, ⟨h.edge, rfl⟩, _, ⟨h.begins, rfl⟩, _, ⟨nameStart, h.gap_pos, h.gap, rfl⟩, _,
      ⟨⟨nameStop, []⟩, spans_rep_kind_iff.mpr ⟨nameStop, h.name_pos, h.name, rfl⟩, rfl⟩, _,
      ⟨paren, h.space.1, h.space, rfl⟩, _, ⟨h.paren, rfl⟩, rfl⟩

private theorem isExhaustive_headExpr : (headExpr keyword).isExhaustive = true := by
  refine isExhaustive_ofList (List.forall_mem_cons.mpr ⟨rfl, List.forall_mem_append.mpr ⟨?_, by decide⟩⟩)
  intro e he
  obtain ⟨c, -, rfl⟩ := List.mem_map.mp he
  rfl

namespace IsHead

variable {start nameStart nameStop paren : Nat}

/-- A name ends before a character that is no part of it. -/
theorem name_end (h : IsHead keyword text start nameStart nameStop paren) :
    (text[nameStop]?).any isWord = false := by
  rcases Nat.eq_or_lt_of_le h.space.1 with rfl | hlt
  · rw [h.paren]
    decide
  · exact any_isWord_of_isSpace (h.space.2 nameStop (Nat.le_refl _) hlt)

private theorem gap_end (h : IsHead keyword text start nameStart nameStop paren) :
    (text[nameStart]?).any isSpace = false :=
  any_isSpace_of_isWord (h.name.2 nameStart (Nat.le_refl _) h.name_pos)

private theorem space_end (h : IsHead keyword text start nameStart nameStop paren) :
    (text[paren]?).any isSpace = false := by
  rw [h.paren]
  decide

/-- Where a head starts, it is the only one. -/
theorem unique {nameStart' nameStop' paren' : Nat}
    (h : IsHead keyword text start nameStart nameStop paren)
    (h' : IsHead keyword text start nameStart' nameStop' paren') :
    nameStart = nameStart' ∧ nameStop = nameStop' ∧ paren = paren' := by
  obtain rfl := h.gap.eq_of_end h'.gap h.gap_end h'.gap_end
  obtain rfl := h.name.eq_of_end h'.name h.name_end h'.name_end
  exact ⟨rfl, rfl, h.space.eq_of_end h'.space h.space_end h'.space_end⟩

section Keyword

variable (hword : keyword.all isWord = true)
include hword

/-- No word starts within a head but the name. -/
theorem eq_nameStart (h : IsHead keyword text start nameStart nameStop paren) {i : Nat}
    (hafter : start < i) (hle : i ≤ paren) (hfirst : (text[i]?).any isWord = true)
    (hbefore : (text[i - 1]?).any isWord = false) : i = nameStart := by
  have hblank : ¬ (text[i]?).any isSpace = true := by
    simp [any_isSpace_of_isWord hfirst]
  have hbefore' : ¬ (text[i - 1]?).any isWord = true := by
    simp [hbefore]
  have hkeyword : start + keyword.length < i := by
    by_contra hin
    exact hbefore' ((IsRun.of_isPrefix h.begins hword).2 (i - 1) (by omega) (by omega))
  have hgap : nameStart ≤ i := by
    by_contra hin
    exact hblank (h.gap.2 i (by omega) (by omega))
  have hparen : i ≠ paren := by
    rintro rfl
    rw [h.paren] at hfirst
    cases hfirst
  have hspace : i < nameStop := by
    by_contra hin
    exact hblank (h.space.2 i (by omega) (by omega))
  by_contra hname
  exact hbefore' (h.name.2 (i - 1) (by omega) (by omega))

variable (hne : keyword ≠ [])
include hne

private theorem any_isWord_start (h : IsHead keyword text start nameStart nameStop paren) :
    (text[start]?).any isWord = true :=
  (IsRun.of_isPrefix h.begins hword).2 start (Nat.le_refl _)
    (Nat.lt_add_of_pos_right (List.length_pos_iff.mpr hne))

/-- A head does not start within another. -/
theorem paren_lt {start' nameStart' nameStop' paren' : Nat}
    (h : IsHead keyword text start nameStart nameStop paren)
    (h' : IsHead keyword text start' nameStart' nameStop' paren') (hlt : start < start') :
    paren < start' := by
  have hfirst := h'.any_isWord_start hword hne
  by_contra hle
  -- its keyword would be the name of the first head
  obtain rfl : start' = nameStart :=
    h.eq_nameStart hword hlt (Nat.not_lt.mp hle) hfirst
      ((holds_wordEdge_iff hfirst).mp h'.edge (by omega))
  have hblank := h'.gap.2 _ (Nat.le_refl _) h'.gap_pos
  obtain rfl : nameStop = start' + keyword.length :=
    h.name.eq_of_end (.of_isPrefix h'.begins hword) h.name_end (any_isWord_of_isSpace hblank)
  -- then the blanks after it end both at a parenthesis and at a name
  obtain rfl : paren = nameStart' := h.space.eq_of_end h'.gap h.space_end h'.gap_end
  have hname := h'.name.2 _ (Nat.le_refl _) h'.name_pos
  rw [h.paren] at hname
  cases hname

end Keyword

private theorem start_lt_paren (h : IsHead keyword text start nameStart nameStop paren) :
    start < paren := by
  have hgap := h.gap_pos
  have hname := h.name_pos
  have hspace := h.space.1
  omega

private theorem paren_lt_length (h : IsHead keyword text start nameStart nameStop paren) :
    paren < text.length :=
  (List.getElem?_eq_some_iff.mp h.paren).1

/-- A head is matched at its start, with the name as the first group. -/
theorem matchAt (h : IsHead keyword text start nameStart nameStop paren) (advance : Bool) :
    (headExpr keyword).matchAt text.toArray start advance =
      some ⟨start, paren + 1, [(1, nameStart, nameStop)]⟩ := by
  have hspans := spans_headExpr_iff.mpr ⟨nameStart, nameStop, paren, h, rfl⟩
  refine Expr.matchAt_of_spans isExhaustive_headExpr hspans (fun m hm => ?_) ?_ advance
  · obtain ⟨nameStart', nameStop', paren', h', rfl⟩ := spans_headExpr_iff.mp hm
    obtain ⟨rfl, rfl, rfl⟩ := h.unique h'
    rfl
  · exact Nat.lt_succ_of_lt h.start_lt_paren

end IsHead

/-- The matches are the heads of the text. -/
theorem mem_matches_headExpr_iff (hword : keyword.all isWord = true) (hne : keyword ≠ [])
    {found : Match} :
    found ∈ (headExpr keyword).matches text.toArray ↔
      ∃ nameStart nameStop paren, IsHead keyword text found.start nameStart nameStop paren ∧
        found = ⟨found.start, paren + 1, [(1, nameStart, nameStop)]⟩ := by
  constructor
  · intro hfound
    obtain ⟨_, hat⟩ := Expr.matchAt_of_mem_matches hfound
    obtain ⟨-, hspans, -⟩ := Expr.spans_of_matchAt hat
    obtain ⟨nameStart, nameStop, paren, hhead, hmark⟩ := spans_headExpr_iff.mp hspans
    obtain ⟨hstop, hspans⟩ := Mark.mk.inj hmark
    exact ⟨nameStart, nameStop, paren, hhead, by rw [← hstop, ← hspans]⟩
  · rintro ⟨nameStart, nameStop, paren, hhead, hfound⟩
    have hsize : found.start ≤ text.toArray.size :=
      Nat.le_of_lt (Nat.lt_trans hhead.start_lt_paren hhead.paren_lt_length)
    refine Expr.mem_matches (hfound ▸ hhead.matchAt) hsize fun advance first hlt hfirst => ?_
    obtain ⟨-, hspans, -⟩ := Expr.spans_of_matchAt hfirst
    obtain ⟨_, _, _, hhead', hmark⟩ := spans_headExpr_iff.mp hspans
    rw [(Mark.mk.inj hmark).1]
    exact hhead'.paren_lt hword hne hhead hlt

end CodeTwins.Pattern
