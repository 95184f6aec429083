import CodeTwins.Numeral
import CodeTwins.Proofs.Decimal.Layout
import CodeTwins.Proofs.Decimal.NotANumber
import CodeTwins.Proofs.Unicode.LetterCase
import CodeTwins.Text.Trim

/-!
# Numerals and what they are read as

A text is read as no number if it spells that out. Every other text that is read as a double is read as
a number, or as infinity.
-/
namespace CodeTwins

namespace Text

variable {p : Char → Bool} {front core back : List Char}

private theorem exists_trim (p : Char → Bool) (s : List Char) :
    ∃ front back, s = front ++ trimEnd p (trimStart p s) ++ back ∧
      (∀ c ∈ front, p c = true) ∧ ∀ c ∈ back, p c = true := by
  refine ⟨s.takeWhile p, ((s.dropWhile p).reverse.takeWhile p).reverse, ?_,
    fun c hc => List.mem_takeWhile_imp hc,
    fun c hc => List.mem_takeWhile_imp (List.mem_reverse.mp hc)⟩
  rw [trimEnd, trimStart, List.append_assoc, ← List.reverse_append, List.takeWhile_append_dropWhile,
    List.reverse_reverse, List.takeWhile_append_dropWhile]

private theorem dropWhile_of_forall {cs : List Char} (h : ∀ c ∈ cs, p c = false) :
    cs.dropWhile p = cs := by
  cases cs with
  | nil => rfl
  | cons c cs => exact List.dropWhile_cons_of_neg (by simp [h c])

/-- What stands between blanks, without blanks in it, is left when these are trimmed off. -/
theorem trim_between (hfront : ∀ c ∈ front, p c = true) (hcore : ∀ c ∈ core, p c = false)
    (hback : ∀ c ∈ back, p c = true) : trimEnd p (trimStart p (front ++ core ++ back)) = core := by
  have hstart : trimStart p (front ++ core ++ back) = trimStart p (core ++ back) := by
    rw [trimStart, trimStart, List.append_assoc, List.dropWhile_append_of_pos hfront]
  have hback' : ∀ c ∈ back.reverse, p c = true := fun c hc => hback c (List.mem_reverse.mp hc)
  rw [hstart]
  cases core with
  | nil =>
    have hnone : trimStart p back = [] := List.dropWhile_eq_nil_iff.mpr hback
    rw [List.nil_append, hnone]
    rfl
  | cons c cs =>
    have hc : ∀ d ∈ (c :: cs).reverse, p d = false := fun d hd => hcore d (List.mem_reverse.mp hd)
    have hkept : trimStart p (c :: cs ++ back) = c :: cs ++ back :=
      List.dropWhile_cons_of_neg (by simp [hcore c])
    rw [hkept, trimEnd, List.reverse_append, List.dropWhile_append_of_pos hback',
      dropWhile_of_forall hc, List.reverse_reverse]

end Text

namespace Numeral

section Digits

variable {before : Char} {cs joined : List Char}

private theorem digitValue?_lt {c : Char} {d : Nat} (h : Unicode.digitValue? c = some d) :
    d < 10 := by
  obtain ⟨first, hfirst, rfl⟩ := Option.map_eq_some_iff.mp h
  have hrange := List.find?_some hfirst
  simp only [Bool.and_eq_true, decide_eq_true_iff] at hrange
  omega

/-- What has no digits as a numeral is written so. -/
theorem map_plainDigit_of_isDigit (h : ∀ c ∈ cs.map plainDigit, c.isDigit = false) :
    cs.map plainDigit = cs := by
  refine (List.map_congr_left fun c hc => ?_).trans (List.map_id cs)
  have hdigit := h _ (List.mem_map_of_mem hc)
  unfold plainDigit at hdigit ⊢
  split at hdigit
  case h_1 d hd =>
    have hplain : ∀ d < 10, (Char.ofNat (48 + d)).isDigit = true := by decide
    rw [hplain d (digitValue?_lt hd)] at hdigit
    cases hdigit
  case h_2 => rfl

/-- Underscores are removed, and nothing else. -/
theorem joinDigits_of_notMem (hbefore : before ≠ '_') (h : '_' ∉ cs) :
    joinDigits before cs = some cs := by
  induction cs generalizing before with
  | nil => rw [joinDigits, if_neg hbefore]
  | cons c cs ih =>
    obtain ⟨hc, hcs⟩ := not_or.mp (List.mem_cons.not.mp h)
    rw [joinDigits, if_neg (Ne.symm hc), if_neg (by simp [hbefore]), ih (Ne.symm hc) hcs]
    rfl

/-- Where no digits are left there were no underscores. -/
theorem eq_of_joinDigits (hbefore : before.isDigit = false)
    (h : joinDigits before cs = some joined) (hjoined : ∀ c ∈ joined, c.isDigit = false) :
    cs = joined := by
  induction cs generalizing before joined with
  | nil =>
    rw [joinDigits] at h
    split at h <;> cases h
    rfl
  | cons c cs ih =>
    rw [joinDigits] at h
    split at h
    case isTrue =>
      rw [hbefore] at h
      cases h
    case isFalse =>
      split at h
      case isTrue => cases h
      case isFalse =>
        obtain ⟨rest, hrest, rfl⟩ := Option.map_eq_some_iff.mp h
        obtain ⟨hc, hall⟩ := List.forall_mem_cons.mp hjoined
        rw [ih hc hrest hall]

end Digits

section Integers

theorem toNat_of_isDigit {c : Char} (h : c.isDigit = true) : 48 ≤ c.toNat ∧ c.toNat ≤ 57 := by
  simp only [Char.isDigit, Bool.and_eq_true, decide_eq_true_iff] at h
  exact h

private theorem natural_lt {digits : List Char} (h : ∀ c ∈ digits, c.isDigit = true) :
    natural digits < 10 ^ digits.length := by
  induction digits using List.reverseRecOn with
  | nil => decide
  | append_singleton digits c ih =>
    obtain ⟨hdigits, hc⟩ := List.forall_mem_append.mp h
    have hlast := toNat_of_isDigit (hc c List.mem_cons_self)
    have hvalue : natural [c] = c.toNat - 48 := Nat.zero_add _
    have hbefore := ih hdigits
    rw [Decimal.natural_append, hvalue, List.length_append, List.length_singleton, pow_succ]
    omega

private theorem digitCount_natural_le {digits : List Char} (hne : digits ≠ [])
    (h : ∀ c ∈ digits, c.isDigit = true) : Decimal.digitCount (natural digits) ≤ digits.length :=
  (Nat.length_toDigits_le_iff (by decide) (List.length_pos_of_ne_nil hne)).mpr (natural_lt h)

private theorem natural?_eq_some {digits : List Char} {n : Nat} (h : natural? digits = some n) :
    digits ≠ [] ∧ (∀ c ∈ digits, c.isDigit = true) ∧ natural digits = n := by
  unfold natural? at h
  split at h
  case isTrue => cases h
  case isFalse hdigits =>
    rw [Bool.or_eq_true, Bool.not_eq_true', not_or, Bool.not_eq_false, List.all_eq_true,
      List.isEmpty_iff] at hdigits
    exact ⟨hdigits.1, hdigits.2, Option.some.inj h⟩

theorem isShort_iff {n : Int} : IsShort n ↔ n.natAbs < 10 ^ maxDigits :=
  Nat.length_toDigits_le_iff (by decide) (by decide)

theorem isShort_iff_lt {n : Int} (hpos : 0 ≤ n) : IsShort n ↔ n < 10 ^ maxDigits := by
  obtain ⟨m, rfl⟩ := Int.eq_ofNat_of_zero_le hpos
  rw [isShort_iff, Int.natAbs_natCast]
  exact_mod_cast Iff.rfl

theorem isShort_of_natAbs_lt {n : Int} (h : n.natAbs < 10 ^ 19) : IsShort n :=
  isShort_iff.mpr (h.trans_le (Nat.pow_le_pow_right (by decide) (by decide)))

theorem not_isShort_pow : ¬ IsShort ((10 : Int) ^ maxDigits) := by
  simp [isShort_iff, Int.natAbs_pow]

/-- An integer that is read can also be written. -/
theorem isShort_of_int? {s : String} {n : Int} (h : int? s = some n) : IsShort n := by
  unfold int? at h
  generalize sign (normalize s) = signed at h
  obtain ⟨negative, body⟩ := signed
  obtain ⟨digits, -, h⟩ := Option.bind_eq_some_iff.mp h
  dsimp only at h
  split at h
  case isTrue => cases h
  case isFalse hlength =>
    obtain ⟨m, hm, h⟩ := Option.bind_eq_some_iff.mp h
    obtain ⟨hne, hdigits, rfl⟩ := natural?_eq_some hm
    have habs : n.natAbs = natural digits := by
      rw [← Option.some.inj h]
      cases negative with
      | true => exact Int.natAbs_neg _
      | false => rfl
    unfold IsShort
    rw [habs]
    exact (digitCount_natural_le hne hdigits).trans (Nat.not_lt.mp hlength)

end Integers

section Word

variable {s : String} {front cs word : List Char} {c : Char} {x : Float}

/-- Whether a character stays as it is in a numeral: it is no blank, no digit of any script and no
underscore. -/
def isLasting (c : Char) : Bool :=
  !isBlank c && !c.isDigit && (Unicode.digitValue? c).isNone && c != '_'

private theorem isLasting_iff : isLasting c = true ↔
    isBlank c = false ∧ c.isDigit = false ∧ Unicode.digitValue? c = none ∧ c ≠ '_' := by
  simp [isLasting, and_assoc]

/-- A sign, or none. -/
def IsSign (front : List Char) : Prop :=
  front ∈ [[], ['+'], ['-']]

/-- The word for what is no number, in any case of its letters. -/
def IsNoNumber (word : List Char) : Prop :=
  word.map Char.toLower = ['n', 'a', 'n']

private theorem map_plainDigit_of_isLasting (h : ∀ c ∈ cs, isLasting c = true) :
    cs.map plainDigit = cs := by
  refine (List.map_congr_left fun c hc => ?_).trans (List.map_id cs)
  obtain ⟨-, -, hnone, -⟩ := isLasting_iff.mp (h c hc)
  rw [plainDigit, hnone]
  rfl

private theorem isLasting_sign (h : IsSign front) : ∀ c ∈ front, isLasting c = true := by
  unfold IsSign at h
  fin_cases h <;> exact List.all_eq_true.mp rfl

private theorem isLasting_word (h : IsNoNumber word) : ∀ c ∈ word, isLasting c = true := by
  intro c hc
  have hlower : c.toLower ∈ ['n', 'a', 'n'] := h ▸ List.mem_map_of_mem hc
  rw [← Unicode.apply_toLower (f := isLasting) (by decide +kernel) c]
  exact List.all_eq_true.mp (show ['n', 'a', 'n'].all isLasting = true from rfl) _ hlower

private theorem exists_sign (cs : List Char) : ∃ front, IsSign front ∧ cs = front ++ (sign cs).2 := by
  unfold IsSign
  fun_cases sign cs with
  | case1 cs => exact ⟨['-'], by simp, rfl⟩
  | case2 cs => exact ⟨['+'], by simp, rfl⟩
  | case3 => exact ⟨[], by simp, rfl⟩

private theorem sign_append (hfront : IsSign front) (hword : IsNoNumber word) :
    (sign (front ++ word)).2 = word := by
  cases word with
  | nil => cases hword
  | cons c cs =>
    have hc : c.toLower = 'n' := (List.cons.inj hword).1
    have hminus : c ≠ '-' := by
      rintro rfl
      revert hc
      decide
    have hplus : c ≠ '+' := by
      rintro rfl
      revert hc
      decide
    unfold IsSign at hfront
    fin_cases hfront
    · simp [sign, hminus, hplus]
    · rfl
    · rfl

/-- A text that spells out that it is no number: the word for it, perhaps after a sign, with blanks
around. -/
def SpellsNoNumber (s : String) : Prop :=
  ∃ before front word after, s.toList = before ++ (front ++ word) ++ after ∧
    (∀ c ∈ before, isBlank c = true) ∧ IsSign front ∧ IsNoNumber word ∧
    ∀ c ∈ after, isBlank c = true

private theorem normalize_eq (s : String) :
    normalize s = (Text.trimEnd isBlank (Text.trimStart isBlank s.toList)).map plainDigit :=
  rfl

/-- The word is what is left of a text that spells it when blanks, underscores and sign are gone. -/
theorem spellsNoNumber_iff : SpellsNoNumber s ↔
    ∃ cs, joinDigits ' ' (normalize s) = some cs ∧ IsNoNumber (sign cs).2 := by
  constructor
  · rintro ⟨before, front, word, after, htext, hbefore, hfront, hword, hafter⟩
    have hlasting : ∀ c ∈ front ++ word, isLasting c = true :=
      List.forall_mem_append.mpr ⟨isLasting_sign hfront, isLasting_word hword⟩
    have hcore : normalize s = front ++ word := by
      rw [normalize_eq, htext, Text.trim_between hbefore
        (fun c hc => (isLasting_iff.mp (hlasting c hc)).1) hafter, map_plainDigit_of_isLasting hlasting]
    have hscore : '_' ∉ front ++ word := fun hmem =>
      (isLasting_iff.mp (hlasting _ hmem)).2.2.2 rfl
    refine ⟨front ++ word, ?_, ?_⟩
    · rw [hcore, joinDigits_of_notMem (by decide) hscore]
    · rwa [sign_append hfront hword]
  · rintro ⟨cs, hjoin, hword⟩
    obtain ⟨front, hfront, hcs⟩ := exists_sign cs
    have hlasting : ∀ c ∈ cs, isLasting c = true := by
      rw [hcs]
      exact List.forall_mem_append.mpr ⟨isLasting_sign hfront, isLasting_word hword⟩
    have hdigits : ∀ c ∈ cs, c.isDigit = false := fun c hc => (isLasting_iff.mp (hlasting c hc)).2.1
    have hsame : normalize s = cs := eq_of_joinDigits (by decide) hjoin hdigits
    obtain ⟨before, after, htext, hbefore, hafter⟩ := Text.exists_trim isBlank s.toList
    have hcore : Text.trimEnd isBlank (Text.trimStart isBlank s.toList) = front ++ (sign cs).2 := by
      rw [← hcs, ← hsame, normalize_eq, map_plainDigit_of_isDigit]
      rwa [← normalize_eq, hsame]
    exact ⟨before, front, (sign cs).2, after, hcore ▸ htext, hbefore, hfront, hword, hafter⟩

end Word

section Doubles

variable {s : String} {cs : List Char} {x : Float}

private theorem decimal?_of_isNoNumber (h : IsNoNumber (sign cs).2) :
    decimal? cs = some Decimal.notANumber := by
  have hnan : String.ofList ((sign cs).2.map Char.toLower) = "nan" := congrArg String.ofList h
  unfold decimal?
  simp only [hnan]
  rfl

private theorem isNaN_of_decimal? (h : decimal? cs = some x) (hword : ¬ IsNoNumber (sign cs).2) :
    x.isNaN = false := by
  unfold decimal? at h
  have hnan : String.ofList ((sign cs).2.map Char.toLower) ≠ "nan" := fun heq =>
    hword (String.ofList_injective heq)
  simp only [hnan, if_false] at h
  split at h
  case isTrue =>
    cases h
    exact Decimal.isNaN_infinity _
  case isFalse =>
    split at h
    case isTrue => cases h
    case isFalse =>
      obtain ⟨e, -, hx⟩ := Option.bind_eq_some_iff.mp h
      rw [← Option.some.inj hx]
      exact Decimal.isNaN_nearest _ _ _

private theorem float?_of_spellsNoNumber (h : SpellsNoNumber s) :
    float? s = some Decimal.notANumber := by
  obtain ⟨cs, hjoin, hword⟩ := spellsNoNumber_iff.mp h
  simp only [float?, hjoin, Option.bind_eq_bind, Option.bind_some]
  exact decimal?_of_isNoNumber hword

/-- A text is read as no number if it spells that out, and only then. -/
theorem isNaN_iff_of_float? (h : float? s = some x) : x.isNaN = true ↔ SpellsNoNumber s := by
  constructor
  · intro hnan
    obtain ⟨cs, hjoin, hdecimal⟩ := Option.bind_eq_some_iff.mp h
    by_contra hnot
    have hword : ¬ IsNoNumber (sign cs).2 := fun hword =>
      hnot (spellsNoNumber_iff.mpr ⟨cs, hjoin, hword⟩)
    rw [isNaN_of_decimal? hdecimal hword] at hnan
    cases hnan
  · intro hspells
    rw [float?_of_spellsNoNumber hspells] at h
    cases h
    exact Decimal.isNaN_notANumber

end Doubles

end Numeral

end CodeTwins
