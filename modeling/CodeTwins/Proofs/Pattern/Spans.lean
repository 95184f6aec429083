import CodeTwins.Pattern.Match
import Mathlib.Order.Lattice

/-!
# What an expression can match

From where to where an expression can go is a relation between marks, without an order in which the ways
are tried. Matching keeps to it: a result is always that of a mark which the expression can reach. And it
misses none, if no way is cut off and a repetition always repeats something that takes a character: where
the continuation accepts any mark within reach, there is a result.
-/
namespace CodeTwins.Pattern

variable {text : Array Char}

/-- One step of a relation after the other, as many as given. -/
def Steps (R : Mark → Mark → Prop) : Nat → Mark → Mark → Prop
  | 0, m, m' => m' = m
  | n + 1, m, m' => ∃ m₁, R m m₁ ∧ Steps R n m₁ m'

/-- From where to where an expression can go. Of what must not match here or before here, nothing is
asked. -/
def Expr.Spans (text : Array Char) : Expr → Mark → Mark → Prop
  | empty, m, m' => m' = m
  | letter l, m, m' => (text[m.pos]?).any l.accepts = true ∧ m' = { m with pos := m.pos + 1 }
  | place p, m, m' => p.holds text m.pos = true ∧ m' = m
  | cat a b, m, m' => ∃ m₁, a.Spans text m m₁ ∧ b.Spans text m₁ m'
  | alt a b, m, m' => a.Spans text m m' ∨ b.Spans text m m'
  | rep least most _ body, m, m' =>
    ∃ more, (∀ n ∈ most, more ≤ n - least) ∧ Steps (body.Spans text) (least + more) m m'
  | group index body, m, m' =>
    ∃ m₁, body.Spans text m m₁ ∧ m' = { m₁ with spans := (index, m.pos, m₁.pos) :: m₁.spans }
  | again index casing, m, m' =>
    ∃ start stop, m.span? index = some (start, stop) ∧
      agree text casing start m.pos (stop - start) = true ∧
      m' = { m with pos := m.pos + (stop - start) }
  | ahead negated body, m, m' =>
    if negated then m' = m else ∃ m₁, body.Spans text m m₁ ∧ m' = { m₁ with pos := m.pos }
  | behind length negated body, m, m' =>
    if negated then m' = m
    else length ≤ m.pos ∧ ∃ m₁, body.Spans text { m with pos := m.pos - length } m₁ ∧
      m' = { m₁ with pos := m.pos }
  | once body, m, m' => body.Spans text m m'
  | ifGroup index yes no, m, m' =>
    if (m.span? index).isSome then yes.Spans text m m' else no.Spans text m m'

namespace Steps

variable {R : Mark → Mark → Prop} {m m' : Mark}

private theorem add_iff {a b : Nat} :
    Steps R (a + b) m m' ↔ ∃ m₁, Steps R a m m₁ ∧ Steps R b m₁ m' := by
  induction a generalizing m with
  | zero => simp [Steps]
  | succ a ih =>
    rw [Nat.succ_add]
    constructor
    · rintro ⟨m₁, hstep, hrest⟩
      obtain ⟨m₂, hsteps, hrest⟩ := ih.mp hrest
      exact ⟨m₂, ⟨m₁, hstep, hsteps⟩, hrest⟩
    · rintro ⟨m₂, ⟨m₁, hstep, hsteps⟩, hrest⟩
      exact ⟨m₁, hstep, ih.mpr ⟨m₂, hsteps, hrest⟩⟩

/-- If each step takes a number of characters, so many do the steps together. -/
theorem add_mul_le {w : Nat} (h : ∀ m m', R m m' → m.pos + w ≤ m'.pos) {n : Nat}
    (hsteps : Steps R n m m') : m.pos + w * n ≤ m'.pos := by
  induction n generalizing m with
  | zero =>
    obtain rfl : m' = m := hsteps
    simp
  | succ n ih =>
    obtain ⟨m₁, hstep, hrest⟩ := hsteps
    have hfirst := h m m₁ hstep
    have hlater := ih hrest
    rw [Nat.mul_succ]
    omega

private theorem le_max {size : Nat} (h : ∀ m m', R m m' → m'.pos ≤ max m.pos size) {n : Nat}
    (hsteps : Steps R n m m') : m'.pos ≤ max m.pos size := by
  induction n generalizing m with
  | zero =>
    obtain rfl : m' = m := hsteps
    exact le_max_left _ _
  | succ n ih =>
    obtain ⟨m₁, hstep, hrest⟩ := hsteps
    have hfirst := h m m₁ hstep
    have hlater := ih hrest
    omega

end Steps

section Sound

variable {body : Step} {R : Mark → Mark → Prop}

/-- A result of the step is one of the continuation at a mark that the relation allows. -/
def Step.Leads (step : Step) (R : Mark → Mark → Prop) : Prop :=
  ∀ ⦃m k r⦄, step m k = some r → ∃ m', R m m' ∧ k m' = some r

private theorem Step.Leads.times (hbody : body.Leads R) (n : Nat) :
    (Step.times body n).Leads (Steps R n) := by
  induction n with
  | zero =>
    intro m k r h
    exact ⟨m, rfl, h⟩
  | succ n ih =>
    intro m k r h
    obtain ⟨m₁, hm₁, h₁⟩ := hbody h
    obtain ⟨m₂, hm₂, h₂⟩ := ih h₁
    exact ⟨m₂, ⟨m₁, hm₁, hm₂⟩, h₂⟩

private theorem Step.Leads.rounds (hbody : body.Leads R) (lazy : Bool) (fuel : Nat)
    (most last : Option Nat) : (Step.rounds body lazy fuel most last).Leads
      fun m m' => ∃ n, (∀ x ∈ most, n ≤ x) ∧ Steps R n m m' := by
  have hstop : ∀ {most : Option Nat} {m : Mark},
      ∃ n, (∀ x ∈ most, n ≤ x) ∧ Steps R n m m := ⟨0, fun _ _ => Nat.zero_le _, rfl⟩
  induction fuel generalizing most last with
  | zero =>
    intro m k r h
    exact ⟨m, hstop, h⟩
  | succ fuel ih =>
    intro m k r h
    have hround : (if most = some 0 || last = some m.pos then none
          else body m fun m' => Step.rounds body lazy fuel (most.map (· - 1)) (some m.pos) m' k)
          = some r →
        ∃ m', (∃ n, (∀ x ∈ most, n ≤ x) ∧ Steps R n m m') ∧ k m' = some r := by
      intro hanother
      split at hanother
      case isTrue => cases hanother
      case isFalse hgo =>
        obtain ⟨m₁, hm₁, h₁⟩ := hbody hanother
        obtain ⟨m₂, ⟨n, hn, hm₂⟩, h₂⟩ := ih _ _ h₁
        refine ⟨m₂, ⟨n + 1, fun x hx => ?_, m₁, hm₁, hm₂⟩, h₂⟩
        obtain rfl : most = some x := hx
        have hle := hn (x - 1) rfl
        have hpos : x ≠ 0 := by
          rintro rfl
          simp at hgo
        omega
    cases lazy with
    | true =>
      simp only [Step.rounds, if_true] at h
      split at h
      case h_1 hk => exact ⟨m, hstop, hk.trans h⟩
      case h_2 => exact hround h
    | false =>
      simp only [Step.rounds, Bool.false_eq_true, if_false] at h
      split at h
      case h_1 hanother => exact hround (hanother.trans h)
      case h_2 => exact ⟨m, hstop, h⟩

private theorem Step.Leads.first (hbody : body.Leads R) : (Step.first body).Leads R := by
  intro m k r h
  unfold Step.first at h
  split at h
  case h_1 m' hm' =>
    obtain ⟨m₁, hm₁, h₁⟩ := hbody hm'
    obtain rfl : m₁ = m' := Option.some.inj h₁
    exact ⟨m₁, hm₁, h⟩
  case h_2 => cases h

/-- Matching keeps to what the expression can match. -/
theorem Expr.leads_run (text : Array Char) (e : Expr) : (e.run text).Leads (e.Spans text) := by
  induction e with
  | empty =>
    intro m k r h
    exact ⟨m, rfl, h⟩
  | letter l =>
    intro m k r h
    simp only [Expr.run] at h
    split at h
    case h_1 c hc =>
      split at h
      case isTrue haccepts => exact ⟨_, ⟨by simpa [hc] using haccepts, rfl⟩, h⟩
      case isFalse => cases h
    case h_2 => cases h
  | place p =>
    intro m k r h
    simp only [Expr.run] at h
    split at h
    case isTrue hholds => exact ⟨m, ⟨hholds, rfl⟩, h⟩
    case isFalse => cases h
  | cat a b iha ihb =>
    intro m k r h
    obtain ⟨m₁, hm₁, h₁⟩ := iha h
    obtain ⟨m₂, hm₂, h₂⟩ := ihb h₁
    exact ⟨m₂, ⟨m₁, hm₁, hm₂⟩, h₂⟩
  | alt a b iha ihb =>
    intro m k r h
    simp only [Expr.run] at h
    split at h
    case h_1 ha => exact (iha (ha.trans h)).imp fun _ hm' => ⟨.inl hm'.1, hm'.2⟩
    case h_2 => exact (ihb h).imp fun _ hm' => ⟨.inr hm'.1, hm'.2⟩
  | rep least most greed body ih =>
    have hall : Step.Leads (fun m k => Step.times (body.run text) least m fun m' =>
        Step.rounds (body.run text) (greed = .lazy) (text.size - m'.pos + 2)
          (most.map (· - least)) none m' k) ((Expr.rep least most greed body).Spans text) := by
      intro m k r h
      obtain ⟨m₁, hm₁, h₁⟩ := ih.times least h
      obtain ⟨m₂, ⟨more, hmore, hm₂⟩, h₂⟩ := ih.rounds _ _ _ _ h₁
      refine ⟨m₂, ⟨more, fun n hn => hmore _ ?_, Steps.add_iff.mpr ⟨m₁, hm₁, hm₂⟩⟩, h₂⟩
      rw [show most = some n from hn]
      rfl
    intro m k r h
    simp only [Expr.run] at h
    split at h
    · exact hall.first h
    · exact hall h
  | group index body ih =>
    intro m k r h
    obtain ⟨m₁, hm₁, h₁⟩ := ih h
    exact ⟨_, ⟨m₁, hm₁, rfl⟩, h₁⟩
  | again index casing =>
    intro m k r h
    simp only [Expr.run] at h
    split at h
    case h_1 start stop hspan =>
      split at h
      case isTrue hagree => exact ⟨_, ⟨start, stop, hspan, hagree, rfl⟩, h⟩
      case isFalse => cases h
    case h_2 => cases h
  | ahead negated body ih =>
    intro m k r h
    simp only [Expr.run] at h
    split at h
    case h_1 m₁ hm₁ =>
      obtain ⟨_, hspans, hsame⟩ := ih hm₁
      exact ⟨_, ⟨m₁, Option.some.inj hsame ▸ hspans, rfl⟩, h⟩
    case h_2 => exact ⟨m, rfl, h⟩
    case h_3 => cases h
  | behind length negated body ih =>
    intro m k r h
    simp only [Expr.run] at h
    split at h
    case h_1 m₁ hm₁ =>
      split at hm₁
      case isTrue hle =>
        obtain ⟨_, hspans, hsame⟩ := ih hm₁
        exact ⟨_, ⟨hle, m₁, Option.some.inj hsame ▸ hspans, rfl⟩, h⟩
      case isFalse => cases hm₁
    case h_2 => exact ⟨m, rfl, h⟩
    case h_3 => cases h
  | once body ih => exact ih.first
  | ifGroup index yes no ihyes ihno =>
    intro m k r h
    simp only [Expr.run] at h
    split at h
    case isTrue hgroup =>
      obtain ⟨m', hm', hk⟩ := ihyes h
      exact ⟨m', by rwa [Expr.Spans, if_pos hgroup], hk⟩
    case isFalse hgroup =>
      obtain ⟨m', hm', hk⟩ := ihno h
      exact ⟨m', by rwa [Expr.Spans, if_neg hgroup], hk⟩

end Sound

section Bounds

/-- The number of characters that an expression takes at least, whatever its groups have matched. -/
def Expr.least (e : Expr) : Nat :=
  (e.width fun _ => ⟨0, some 0⟩).least

private theorem agree_le_size {casing : Casing} {i j n : Nat} (h : agree text casing i j n = true) :
    j + n ≤ max j text.size := by
  induction n generalizing i j with
  | zero => exact le_max_left _ _
  | succ n ih =>
    unfold agree at h
    split at h
    case h_1 c d _ hd =>
      have hlater := ih (Bool.and_eq_true_iff.mp h).2
      have hlt := (Array.getElem?_eq_some_iff.mp hd).1
      omega
    case h_2 => cases h

/-- An expression takes what it must at least, and nothing beyond the text. -/
theorem Expr.Spans.bounds {e : Expr} {m m' : Mark} (h : e.Spans text m m') :
    m.pos + e.least ≤ m'.pos ∧ m'.pos ≤ max m.pos text.size := by
  induction e generalizing m m' with
  | empty =>
    obtain rfl : m' = m := h
    exact ⟨Nat.le_refl _, le_max_left _ _⟩
  | letter l =>
    obtain ⟨hletter, rfl⟩ := h
    obtain ⟨c, hc, -⟩ := (Option.any_eq_true _ _).mp hletter
    have hlt := (Array.getElem?_eq_some_iff.mp hc).1
    exact ⟨Nat.le_refl _, Nat.le_trans hlt (le_max_right _ _)⟩
  | place p =>
    obtain ⟨-, rfl⟩ := h
    exact ⟨Nat.le_refl _, le_max_left _ _⟩
  | cat a b iha ihb =>
    obtain ⟨m₁, ha, hb⟩ := h
    have hfirst := iha ha
    have hsecond := ihb hb
    simp only [Expr.least, Expr.width, Width.add] at hfirst hsecond ⊢
    omega
  | alt a b iha ihb =>
    simp only [Expr.least, Expr.width, Width.join] at iha ihb ⊢
    rcases h with h | h
    · have ha := iha h
      omega
    · have hb := ihb h
      omega
  | rep least most greed body ih =>
    obtain ⟨more, -, hsteps⟩ := h
    have hleast := hsteps.add_mul_le fun _ _ hstep => (ih hstep).1
    refine ⟨?_, hsteps.le_max fun _ _ hstep => (ih hstep).2⟩
    refine Nat.le_trans (Nat.add_le_add_left ?_ _) hleast
    exact Nat.mul_le_mul_left _ (Nat.le_add_right least more)
  | group index body ih =>
    obtain ⟨m₁, hbody, rfl⟩ := h
    have hbounds := ih hbody
    exact hbounds
  | again index casing =>
    obtain ⟨start, stop, -, hagree, rfl⟩ := h
    exact ⟨Nat.le_add_right _ _, agree_le_size hagree⟩
  | ahead negated body _ =>
    have hpos : m'.pos = m.pos := by
      unfold Expr.Spans at h
      split at h
      · rw [h]
      · obtain ⟨_, -, rfl⟩ := h
        rfl
    rw [hpos]
    exact ⟨Nat.le_refl _, le_max_left _ _⟩
  | behind length negated body _ =>
    have hpos : m'.pos = m.pos := by
      unfold Expr.Spans at h
      split at h
      · rw [h]
      · obtain ⟨-, _, -, rfl⟩ := h
        rfl
    rw [hpos]
    exact ⟨Nat.le_refl _, le_max_left _ _⟩
  | once body ih => exact ih h
  | ifGroup index yes no ihyes ihno =>
    simp only [Expr.least, Expr.width, Width.join] at ihyes ihno ⊢
    unfold Expr.Spans at h
    split at h
    · have hyes := ihyes h
      omega
    · have hno := ihno h
      omega

end Bounds

section Complete

variable {body : Step} {R : Mark → Mark → Prop}

/-- The step has a result if the continuation has one at a mark that the relation allows. -/
def Step.Finds (step : Step) (R : Mark → Mark → Prop) : Prop :=
  ∀ ⦃m m' k⦄, R m m' → (k m').isSome = true → (step m k).isSome = true

private theorem Step.Finds.times (hbody : body.Finds R) (n : Nat) :
    (Step.times body n).Finds (Steps R n) := by
  induction n with
  | zero =>
    rintro m m' k rfl hk
    exact hk
  | succ n ih =>
    rintro m m' k ⟨m₁, hm₁, hm'⟩ hk
    exact hbody hm₁ (ih hm' hk)

/-- Rounds that go forward are all tried, if there is fuel for them. -/
theorem Step.Finds.rounds (hbody : body.Finds R) (hforward : ∀ m m', R m m' → m.pos < m'.pos)
    (lazy : Bool) {fuel n : Nat} {most last : Option Nat} {m m' : Mark} {k : Mark → Option Mark}
    (hfuel : n ≤ fuel) (hmost : ∀ x ∈ most, n ≤ x) (hlast : ∀ q ∈ last, q < m.pos)
    (hsteps : Steps R n m m') (hk : (k m').isSome = true) :
    (Step.rounds body lazy fuel most last m k).isSome = true := by
  induction fuel generalizing n most last m with
  | zero =>
    obtain rfl := Nat.le_zero.mp hfuel
    obtain rfl : m' = m := hsteps
    exact hk
  | succ fuel ih =>
    have hround : ∀ n', n = n' + 1 →
        (if most = some 0 || last = some m.pos then none
          else body m fun m' => Step.rounds body lazy fuel (most.map (· - 1)) (some m.pos) m' k).isSome
          = true := by
      rintro n' rfl
      obtain ⟨m₁, hm₁, hm'⟩ := hsteps
      have hgo : ¬ (most = some 0 || last = some m.pos) = true := by
        simp only [Bool.or_eq_true, decide_eq_true_eq, not_or]
        exact ⟨fun h => Nat.not_succ_le_zero _ (hmost 0 h), fun h => Nat.lt_irrefl _ (hlast _ h)⟩
      rw [if_neg hgo]
      refine hbody hm₁ (ih (Nat.le_of_succ_le_succ hfuel) ?_ ?_ hm')
      · intro x hx
        obtain ⟨y, hy, rfl⟩ := Option.map_eq_some_iff.mp hx
        have hle := hmost y hy
        omega
      · rintro q ⟨⟩
        exact hforward m m₁ hm₁
    have hstay : n = 0 → (k m).isSome = true := by
      rintro rfl
      obtain rfl : m' = m := hsteps
      exact hk
    unfold Step.rounds
    cases lazy with
    | true =>
      simp only [if_true]
      split
      case h_1 => rfl
      case h_2 hnone =>
        cases n with
        | zero => rw [hnone] at hstay; cases hstay rfl
        | succ n' => exact hround n' rfl
    | false =>
      simp only [Bool.false_eq_true, if_false]
      split
      case h_1 => rfl
      case h_2 hnone =>
        cases n with
        | zero => exact hstay rfl
        | succ n' => rw [hnone] at hround; cases hround n' rfl

/-- No way to match the expression is cut off, and what is repeated takes a character at least. -/
def Expr.isExhaustive : Expr → Bool
  | cat a b => a.isExhaustive && b.isExhaustive
  | alt a b => a.isExhaustive && b.isExhaustive
  | rep _ _ greed body => greed != .possessive && 0 < body.least && body.isExhaustive
  | group _ body => body.isExhaustive
  | ahead _ _ => false
  | behind _ _ _ => false
  | once _ => false
  | ifGroup _ yes no => yes.isExhaustive && no.isExhaustive
  | _ => true

/-- What an exhaustive expression can match is found. -/
theorem Expr.finds_run (text : Array Char) {e : Expr} (h : e.isExhaustive = true) :
    (e.run text).Finds (e.Spans text) := by
  induction e with
  | empty =>
    rintro m m' k rfl hk
    exact hk
  | letter l =>
    rintro m m' k ⟨hletter, rfl⟩ hk
    obtain ⟨c, hc, haccepts⟩ := (Option.any_eq_true _ _).mp hletter
    simp only [Expr.run, hc, haccepts, if_true]
    exact hk
  | place p =>
    rintro m m' k ⟨hholds, rfl⟩ hk
    simp only [Expr.run, hholds, if_true]
    exact hk
  | cat a b iha ihb =>
    rintro m m' k ⟨m₁, ha, hb⟩ hk
    obtain ⟨hea, heb⟩ := Bool.and_eq_true_iff.mp h
    exact iha hea ha (ihb heb hb hk)
  | alt a b iha ihb =>
    intro m m' k hspans hk
    obtain ⟨hea, heb⟩ := Bool.and_eq_true_iff.mp h
    unfold Expr.run
    split
    case h_1 => rfl
    case h_2 hnone =>
      rcases hspans with ha | hb
      · have hsome := iha hea ha hk
        rw [hnone] at hsome
        cases hsome
      · exact ihb heb hb hk
  | rep least most greed body ih =>
    rintro m m' k ⟨more, hmore, hsteps⟩ hk
    obtain ⟨m₁, hneeded, hmoreSteps⟩ := Steps.add_iff.mp hsteps
    simp only [isExhaustive, Bool.and_eq_true, bne_iff_ne, ne_eq, decide_eq_true_eq] at h
    obtain ⟨⟨hgreed, hleast⟩, hbody⟩ := h
    have hforward : ∀ m m', body.Spans text m m' → m.pos < m'.pos := fun m m' hspans =>
      Nat.lt_of_lt_of_le (Nat.lt_add_of_pos_right hleast) hspans.bounds.1
    have hlength := hmoreSteps.add_mul_le (w := 1) hforward
    have hsize := hmoreSteps.le_max fun _ _ hspans => hspans.bounds.2
    unfold Expr.run
    rw [if_neg hgreed]
    refine (ih hbody).times least hneeded ?_
    refine (ih hbody).rounds hforward _ (by omega) ?_ (by simp) hmoreSteps hk
    intro x hx
    obtain ⟨n, hn, rfl⟩ := Option.map_eq_some_iff.mp hx
    exact hmore n hn
  | group index body ih =>
    rintro m m' k ⟨m₁, hbody, rfl⟩ hk
    exact ih h hbody hk
  | again index casing =>
    rintro m m' k ⟨start, stop, hspan, hagree, rfl⟩ hk
    unfold Expr.run
    rw [hspan]
    dsimp only
    rwa [if_pos hagree]
  | ahead => cases h
  | behind => cases h
  | once => cases h
  | ifGroup index yes no ihyes ihno =>
    intro m m' k hspans hk
    obtain ⟨heyes, heno⟩ := Bool.and_eq_true_iff.mp h
    unfold Expr.Spans at hspans
    unfold Expr.run
    split
    case isTrue hgroup =>
      rw [if_pos hgroup] at hspans
      exact ihyes heyes hspans hk
    case isFalse hgroup =>
      rw [if_neg hgroup] at hspans
      exact ihno heno hspans hk

/-- Matching an exhaustive expression fails just where the continuation accepts nothing that the
expression can reach. -/
theorem Expr.isSome_run_iff {e : Expr} (h : e.isExhaustive = true) {m : Mark} {k : Mark → Option Mark} :
    (e.run text m k).isSome = true ↔ ∃ m', e.Spans text m m' ∧ (k m').isSome = true := by
  constructor
  · intro hsome
    obtain ⟨r, hr⟩ := Option.isSome_iff_exists.mp hsome
    obtain ⟨m', hspans, hk⟩ := e.leads_run text hr
    exact ⟨m', hspans, Option.isSome_iff_exists.mpr ⟨r, hk⟩⟩
  · rintro ⟨m', hspans, hk⟩
    exact Expr.finds_run text h hspans hk

end Complete

end CodeTwins.Pattern
