import CodeTwins.Pattern.Reader
import CodeTwins.Proofs.Pattern.Spans

/-!
# Runs of characters

What a repeated letter and the letters of a word match, said of the text.
-/
namespace CodeTwins.Pattern

variable {text : List Char}

section Parts

variable {part : List Char} {start : Nat}

theorem getElem?_of_isPrefix (h : part <+: text.drop start) {i : Nat} (hi : i < part.length) :
    text[start + i]? = part[i]? := by
  obtain ⟨after, hafter⟩ := h
  rw [← List.getElem?_drop, ← hafter, List.getElem?_append_left hi]

theorem getElem?_last_of_isPrefix (h : part <+: text.drop start) (hne : part ≠ []) :
    text[start + part.length - 1]? = part.getLast? := by
  have hpos := List.length_pos_iff.mpr hne
  rw [List.getLast?_eq_getElem?, ← getElem?_of_isPrefix h (by omega)]
  congr 1
  omega

/-- Two parts stand at a position if the second stands where the first one ends. -/
theorem append_isPrefix_drop_iff {more : List Char} :
    part ++ more <+: text.drop start ↔
      part <+: text.drop start ∧ more <+: text.drop (start + part.length) := by
  rw [← List.drop_drop]
  constructor
  · rintro ⟨after, hafter⟩
    rw [← hafter, List.append_assoc, List.drop_left]
    exact ⟨List.prefix_append _ _, List.prefix_append _ _⟩
  · rintro ⟨⟨after, hafter⟩, hmore⟩
    rw [← hafter, List.drop_left] at hmore
    rw [← hafter]
    exact (List.prefix_append_right_inj part).mpr hmore

theorem cons_isPrefix_drop_iff {c : Char} :
    c :: part <+: text.drop start ↔ text[start]? = some c ∧ part <+: text.drop (start + 1) := by
  rw [← List.singleton_append, append_isPrefix_drop_iff, ← List.head?_drop]
  refine and_congr_left fun _ => ?_
  cases text.drop start with
  | nil => simp
  | cons d rest => simp [List.cons_prefix_cons, eq_comm]

end Parts

/-- All characters from one position up to another satisfy a test. -/
def IsRun (p : Char → Bool) (text : List Char) (start stop : Nat) : Prop :=
  start ≤ stop ∧ ∀ i, start ≤ i → i < stop → (text[i]?).any p = true

namespace IsRun

variable {p : Char → Bool} {start stop stop' : Nat}

private theorem refl (p : Char → Bool) (text : List Char) (start : Nat) : IsRun p text start start :=
  ⟨Nat.le_refl _, fun _ hi hlt => absurd hlt (Nat.not_lt_of_le hi)⟩

private theorem cons_iff : IsRun p text start (start + 1 + stop) ↔
    (text[start]?).any p = true ∧ IsRun p text (start + 1) (start + 1 + stop) := by
  constructor
  · intro ⟨_, hall⟩
    exact ⟨hall start (Nat.le_refl _) (by omega), by omega, fun i hi hlt => hall i (by omega) hlt⟩
  · intro ⟨hfirst, _, hall⟩
    refine ⟨by omega, fun i hi hlt => ?_⟩
    rcases Nat.eq_or_lt_of_le hi with rfl | hi
    · exact hfirst
    · exact hall i hi hlt

/-- A run that cannot go on is not shorter than another from the same position. -/
theorem le_of_end (h : IsRun p text start stop) (h' : IsRun p text start stop')
    (hend : (text[stop]?).any p = false) : stop' ≤ stop := by
  refine Nat.le_of_not_lt fun hlt => ?_
  rw [h'.2 stop h.1 hlt] at hend
  cases hend

theorem eq_of_end (h : IsRun p text start stop) (h' : IsRun p text start stop')
    (hend : (text[stop]?).any p = false) (hend' : (text[stop']?).any p = false) : stop = stop' :=
  Nat.le_antisymm (h'.le_of_end h hend') (h.le_of_end h' hend)

theorem of_isPrefix {run : List Char} (hrun : run <+: text.drop start) (h : run.all p = true) :
    IsRun p text start (start + run.length) := by
  refine ⟨Nat.le_add_right _ _, fun i hi hlt => ?_⟩
  obtain ⟨j, rfl⟩ := Nat.exists_eq_add_of_le hi
  have hj : j < run.length := by omega
  rw [getElem?_of_isPrefix hrun hj, List.getElem?_eq_getElem hj]
  exact List.all_eq_true.mp h _ (List.getElem_mem hj)

end IsRun

section Spans

variable {m m' : Mark}

private theorem steps_letter_iff {l : Letter} {n : Nat} :
    Steps ((Expr.letter l).Spans text.toArray) n m m' ↔
      IsRun l.accepts text m.pos (m.pos + n) ∧ m' = { m with pos := m.pos + n } := by
  induction n generalizing m with
  | zero => simp [Steps, IsRun.refl]
  | succ n ih =>
    have hsum : m.pos + (n + 1) = m.pos + 1 + n := by omega
    rw [hsum, IsRun.cons_iff]
    constructor
    · rintro ⟨m₁, ⟨hletter, rfl⟩, hrest⟩
      obtain ⟨hrun, hm'⟩ := ih.mp hrest
      exact ⟨⟨by simpa using hletter, hrun⟩, hm'⟩
    · rintro ⟨⟨hletter, hrun⟩, hm'⟩
      exact ⟨_, ⟨by simpa using hletter, rfl⟩, ih.mpr ⟨hrun, hm'⟩⟩

/-- A repeated letter matches the runs from a position that are long enough. -/
theorem spans_rep_letter_iff {l : Letter} {least : Nat} {greed : Greed} :
    (Expr.rep least none greed (.letter l)).Spans text.toArray m m' ↔
      ∃ stop, m.pos + least ≤ stop ∧ IsRun l.accepts text m.pos stop ∧ m' = { m with pos := stop } := by
  constructor
  · rintro ⟨more, -, hsteps⟩
    obtain ⟨hrun, hm'⟩ := steps_letter_iff.mp hsteps
    exact ⟨_, by omega, hrun, hm'⟩
  · rintro ⟨stop, hle, hrun, hm'⟩
    obtain ⟨more, rfl⟩ := Nat.exists_eq_add_of_le hle
    rw [Nat.add_assoc] at hrun hm'
    exact ⟨more, by simp, steps_letter_iff.mpr ⟨hrun, hm'⟩⟩

/-- The repeated members of a class match the runs of the class that are long enough. -/
theorem spans_rep_kind_iff {kind : Kind} {least : Nat} {greed : Greed} :
    (Expr.rep least none greed (.letter (.among [.kind kind false false] false .exact))).Spans
        text.toArray m m' ↔
      ∃ stop, m.pos + least ≤ stop ∧ IsRun (kind.has false) text m.pos stop ∧
        m' = { m with pos := stop } := by
  have haccepts : (Letter.among [.kind kind false false] false .exact).accepts = kind.has false := by
    funext c
    simp [Letter.accepts, Member.covers]
  rw [spans_rep_letter_iff, haccepts]

theorem spans_ofList_cons {e : Expr} {es : List Expr} :
    (Expr.ofList (e :: es)).Spans text.toArray m m' ↔
      ∃ m₁, e.Spans text.toArray m m₁ ∧ (Expr.ofList es).Spans text.toArray m₁ m' := by
  cases es with
  | nil => simp [Expr.ofList, Expr.Spans]
  | cons e' es => rfl

theorem spans_ofList_append {es es' : List Expr} :
    (Expr.ofList (es ++ es')).Spans text.toArray m m' ↔
      ∃ m₁, (Expr.ofList es).Spans text.toArray m m₁ ∧ (Expr.ofList es').Spans text.toArray m₁ m' := by
  induction es generalizing m with
  | nil => simp [Expr.ofList, Expr.Spans]
  | cons e es ih =>
    rw [List.cons_append, spans_ofList_cons]
    simp only [ih, spans_ofList_cons]
    constructor
    · rintro ⟨m₁, he, m₂, hes, hes'⟩
      exact ⟨m₂, ⟨m₁, he, hes⟩, hes'⟩
    · rintro ⟨m₂, ⟨m₁, he, hes⟩, hes'⟩
      exact ⟨m₁, he, m₂, hes, hes'⟩

theorem isExhaustive_ofList {es : List Expr} (h : ∀ e ∈ es, e.isExhaustive = true) :
    (Expr.ofList es).isExhaustive = true := by
  induction es with
  | nil => rfl
  | cons e es ih =>
    obtain ⟨he, hes⟩ := List.forall_mem_cons.mp h
    cases es with
    | nil => exact he
    | cons e' es => exact Bool.and_eq_true_iff.mpr ⟨he, ih hes⟩

/-- The letters of a word, one after the other. -/
def literals (word : List Char) : List Expr :=
  word.map fun c => literal {} c.toNat

theorem spans_literal_iff {c : Char} :
    (literal {} c.toNat).Spans text.toArray m m' ↔
      text[m.pos]? = some c ∧ m' = { m with pos := m.pos + 1 } := by
  refine and_congr_left fun _ => ?_
  rw [List.getElem?_toArray]
  cases text[m.pos]? with
  | none => simp
  | some d => simp [Letter.accepts, Member.covers, Casing.classOf, Flags.casing, Char.toNat_inj, eq_comm]

theorem spans_literals_iff {word : List Char} :
    (Expr.ofList (literals word)).Spans text.toArray m m' ↔
      word <+: text.drop m.pos ∧ m' = { m with pos := m.pos + word.length } := by
  induction word generalizing m with
  | nil => simp [literals, Expr.ofList, Expr.Spans]
  | cons c word ih =>
    rw [literals, List.map_cons, ← literals, spans_ofList_cons, cons_isPrefix_drop_iff]
    constructor
    · rintro ⟨m₁, hletter, hrest⟩
      obtain ⟨hc, rfl⟩ := spans_literal_iff.mp hletter
      obtain ⟨hword, rfl⟩ := ih.mp hrest
      exact ⟨⟨hc, hword⟩, by simp [Nat.add_assoc, Nat.add_comm 1]⟩
    · rintro ⟨⟨hc, hword⟩, rfl⟩
      refine ⟨_, spans_literal_iff.mpr ⟨hc, rfl⟩, ih.mpr ⟨hword, ?_⟩⟩
      simp [Nat.add_assoc, Nat.add_comm 1]

end Spans

end CodeTwins.Pattern
