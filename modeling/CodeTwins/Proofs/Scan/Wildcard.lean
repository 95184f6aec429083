import CodeTwins.Scan.Wildcard
import Mathlib.Data.List.Infix

/-!
# What a pattern matches

A run takes any part of a text and a character takes itself, so a pattern matches a text that falls
into parts for its own parts. A text in which no character has a meaning of its own matches itself
and nothing else.
-/
namespace CodeTwins.Wildcard

variable {parts : List Part} {cs text : List Char}

private theorem suffixes_eq_tails (text : List Char) : suffixes text = text.tails := by
  induction text with
  | nil => rfl
  | cons c text ih => rw [suffixes, ih, List.tails_cons]

private theorem isMatch_nil_iff : isMatch [] text = true ↔ text = [] := by
  rw [isMatch, List.isEmpty_iff]

private theorem isMatch_run_iff : isMatch (.run :: parts) text = true ↔
    ∃ before after, text = before ++ after ∧ isMatch parts after = true := by
  rw [isMatch, List.any_eq_true]
  constructor
  · intro h
    obtain ⟨after, hafter, hmatch⟩ := h
    rw [suffixes_eq_tails, List.mem_tails] at hafter
    obtain ⟨before, hbefore⟩ := hafter
    exact ⟨before, after, hbefore.symm, hmatch⟩
  · intro h
    obtain ⟨before, after, htext, hmatch⟩ := h
    refine ⟨after, ?_, hmatch⟩
    rw [suffixes_eq_tails, List.mem_tails, htext]
    exact List.suffix_append before after

private theorem isMatch_char_iff {c : Char} :
    isMatch (.char c :: parts) text = true ↔
      ∃ rest, text = c :: rest ∧ isMatch parts rest = true := by
  cases text with
  | nil => simp [isMatch]
  | cons d text =>
    rw [isMatch, Bool.and_eq_true, Part.accepts, beq_iff_eq]
    · simp only [List.cons.injEq, and_assoc, exists_and_left, eq_comm, exists_eq_left']
    · intro h
      cases h

/-- A run after a character takes all that is left. -/
theorem isMatch_char_run_iff {c : Char} :
    isMatch [.char c, .run] text = true ↔ ∃ below, text = c :: below := by
  have hrun : ∀ rest, isMatch [.run] rest = true := by
    intro rest
    rw [isMatch_run_iff]
    exact ⟨rest, [], (List.append_nil rest).symm, rfl⟩
  rw [isMatch_char_iff]
  simp only [hrun, and_true]

theorem isMatch_run_char_iff {c : Char} :
    isMatch (.run :: .char c :: parts) text = true ↔
      ∃ above rest, text = above ++ c :: rest ∧ isMatch parts rest = true := by
  rw [isMatch_run_iff]
  constructor
  · intro h
    obtain ⟨above, after, htext, hafter⟩ := h
    obtain ⟨rest, rfl, hrest⟩ := isMatch_char_iff.mp hafter
    exact ⟨above, rest, htext, hrest⟩
  · intro h
    obtain ⟨above, rest, htext, hrest⟩ := h
    exact ⟨above, c :: rest, htext, isMatch_char_iff.mpr ⟨rest, rfl, hrest⟩⟩

private theorem isMatch_chars_append_iff (cs : List Char) :
    isMatch (cs.map .char ++ parts) text = true ↔
      ∃ rest, text = cs ++ rest ∧ isMatch parts rest = true := by
  induction cs generalizing text with
  | nil => simp
  | cons c cs ih =>
    rw [List.map_cons, List.cons_append, isMatch_char_iff]
    constructor
    · intro h
      obtain ⟨tail, rfl, htail⟩ := h
      obtain ⟨rest, rfl, hrest⟩ := ih.mp htail
      exact ⟨rest, rfl, hrest⟩
    · intro h
      obtain ⟨rest, rfl, hrest⟩ := h
      exact ⟨cs ++ rest, rfl, ih.mpr ⟨rest, rfl, hrest⟩⟩

/-- A text in which no character has a meaning of its own. -/
def IsLiteral (cs : List Char) : Prop :=
  ∀ c ∈ cs, c ∉ ['*', '?', '[', '\\']

instance (cs : List Char) : Decidable (IsLiteral cs) :=
  List.decidableBAll _ cs

theorem IsLiteral.sublist {sub : List Char} (h : IsLiteral cs) (hsub : sub.Sublist cs) :
    IsLiteral sub :=
  fun c hc => h c (hsub.subset hc)

private theorem IsLiteral.ofText_eq (h : IsLiteral cs) : ofText cs = cs.map .char := by
  induction cs with
  | nil =>
    rw [ofText]
    rfl
  | cons c cs ih =>
    obtain ⟨hc, hcs⟩ := List.forall_mem_cons.mp h
    simp only [List.mem_cons, List.not_mem_nil, or_false, not_or] at hc
    rw [ofText, ih hcs, List.map_cons]
    · exact hc.1
    · exact hc.2.1
    · exact hc.2.2.1

theorem IsLiteral.isMatch_append_iff (h : IsLiteral cs) :
    isMatch (ofText cs ++ parts) text = true ↔
      ∃ rest, text = cs ++ rest ∧ isMatch parts rest = true := by
  rw [h.ofText_eq]
  exact isMatch_chars_append_iff cs

/-- A literal pattern matches itself and nothing else. -/
theorem IsLiteral.isMatch_iff (h : IsLiteral cs) : isMatch (ofText cs) text = true ↔ text = cs := by
  have happend : isMatch (ofText cs ++ []) text = true ↔
      ∃ rest, text = cs ++ rest ∧ isMatch [] rest = true := h.isMatch_append_iff
  rw [List.append_nil] at happend
  rw [happend]
  simp [isMatch_nil_iff]

end CodeTwins.Wildcard
