import CodeTwins.Numeral
import CodeTwins.Proofs.Decimal.Shortest
import Mathlib.Tactic.IntervalCases

/-!
# Reading back what is written

The text of a double is read as the double. It is laid out as a numeral with a point or an exponent
whose value is that of the shortest decimal.
-/
namespace CodeTwins.Decimal

section Digits

private theorem natural_eq (digits : List Char) :
    Numeral.natural digits = Nat.ofDigitChars 10 digits 0 := by
  simp only [Numeral.natural, Nat.ofDigitChars, Nat.mul_comm 10]
  rfl

theorem natural_append (ds es : List Char) :
    Numeral.natural (ds ++ es) = Numeral.natural ds * 10 ^ es.length + Numeral.natural es := by
  simp only [natural_eq, Nat.ofDigitChars_append]
  rw [Nat.ofDigitChars_eq_ofDigitChars_zero, Nat.mul_comm]

private theorem natural_zeros (n : Nat) : Numeral.natural (List.replicate n '0') = 0 := by
  rw [natural_eq, Nat.ofDigitChars_replicate_zero, Nat.mul_zero]

theorem natural_toDigits (n : Nat) : Numeral.natural (Nat.toDigits 10 n) = n := by
  rw [natural_eq, Nat.ofDigitChars_ten_toDigits]

/-- Digits without a leading zero. -/
structure IsNumeral (ds : List Char) : Prop where
  digits : ∀ c ∈ ds, c.isDigit = true
  head : ∃ c rest, ds = c :: rest ∧ c ≠ '0'

theorem isNumeral_toDigits {n : Nat} (hn : 0 < n) : IsNumeral (Nat.toDigits 10 n) := by
  refine ⟨fun c hc => Nat.isDigit_of_mem_toDigits (by decide) (by decide) hc, ?_⟩
  induction n using Nat.strongRecOn with
  | ind n ih =>
    rcases Nat.lt_or_ge n 10 with hlt | hge
    · refine ⟨n.digitChar, [], Nat.toDigits_of_lt_base hlt, ?_⟩
      interval_cases n <;> decide
    · obtain ⟨c, rest, hdigits, hc⟩ := ih (n / 10) (by omega) (by omega)
      exact ⟨c, rest ++ [(n % 10).digitChar],
        by rw [Nat.toDigits_of_base_le (by decide) hge, hdigits]; rfl, hc⟩

/-- The zeros that are dropped at the end. -/
theorem exists_dropTrailingZeros (ds : List Char) :
    ∃ zeros, ds = dropTrailingZeros ds ++ List.replicate zeros '0' := by
  refine ⟨(ds.reverse.takeWhile (· == '0')).length, ?_⟩
  have hzeros : ds.reverse.takeWhile (· == '0') =
      List.replicate (ds.reverse.takeWhile (· == '0')).length '0' :=
    List.eq_replicate_of_mem fun c hc => beq_iff_eq.mp (List.all_eq_true.mp List.all_takeWhile c hc)
  calc
    ds = (ds.reverse.takeWhile (· == '0') ++ ds.reverse.dropWhile (· == '0')).reverse := by
      rw [List.takeWhile_append_dropWhile, List.reverse_reverse]
    _ = _ := by
      rw [List.reverse_append, ← List.reverse_replicate, ← hzeros]
      rfl

private theorem IsNumeral.dropTrailingZeros {ds : List Char} (h : IsNumeral ds) :
    IsNumeral (dropTrailingZeros ds) := by
  obtain ⟨zeros, hds⟩ := exists_dropTrailingZeros ds
  refine ⟨fun c hc => h.digits c (hds ▸ List.mem_append_left _ hc), ?_⟩
  obtain ⟨c, rest, hcons, hc⟩ := h.head
  rcases hdropped : Decimal.dropTrailingZeros ds with _ | ⟨c', rest'⟩
  · rw [hdropped, List.nil_append, hcons] at hds
    exact absurd (List.eq_of_mem_replicate (hds ▸ List.mem_cons_self)) hc
  · rw [hdropped, hcons] at hds
    cases hds
    exact ⟨c, rest', rfl, hc⟩

end Digits

section Layout

/-- A numeral: digits, those after the point if there is one, and the exponent if there is one. -/
structure Parts where
  whole : List Char
  fraction : List Char
  exponent : Option Int

def Parts.exponentChars (p : Parts) : List Char :=
  match p.exponent with
  | none => []
  | some e => 'e' :: exponentText e

def Parts.chars (p : Parts) : List Char :=
  p.whole ++ (if p.fraction = [] then [] else '.' :: p.fraction) ++ p.exponentChars

def Parts.coefficient (p : Parts) : Nat :=
  Numeral.natural (p.whole ++ p.fraction)

/-- The power of ten that the coefficient is scaled by. -/
def Parts.scale (p : Parts) : Int :=
  p.exponent.getD 0 - p.fraction.length

/-- The numeral has a point or an exponent, and no leading zero but before the point. -/
structure Parts.Fits (p : Parts) : Prop where
  whole : IsNumeral p.whole ∨ p.whole = ['0']
  fraction : ∀ c ∈ p.fraction, c.isDigit = true
  real : p.fraction ≠ [] ∨ p.exponent ≠ none

private theorem IsNumeral.ne_nil {ds : List Char} (h : IsNumeral ds) : ds ≠ [] := by
  obtain ⟨c, rest, rfl, -⟩ := h.head
  exact List.cons_ne_nil c rest

private theorem IsNumeral.append {ds es : List Char} (h : IsNumeral ds)
    (hes : ∀ c ∈ es, c.isDigit = true) : IsNumeral (ds ++ es) := by
  obtain ⟨c, rest, hds, hc⟩ := h.head
  exact ⟨fun c hc => (List.mem_append.mp hc).elim (h.digits c) (hes c), c, rest ++ es,
    by rw [hds]; rfl, hc⟩

private theorem IsNumeral.take {ds : List Char} (h : IsNumeral ds) {n : Nat} (hn : 0 < n) :
    IsNumeral (ds.take n) := by
  obtain ⟨c, rest, rfl, hc⟩ := h.head
  refine ⟨fun d hd => h.digits d (List.mem_of_mem_take hd), c, rest.take (n - 1), ?_, hc⟩
  obtain ⟨m, rfl⟩ := Nat.exists_eq_add_of_le' hn
  rfl

private theorem isDigit_of_mem_zeros {n : Nat} : ∀ c ∈ List.replicate n '0', c.isDigit = true := by
  intro c hc
  rw [List.eq_of_mem_replicate hc]
  rfl

/-- Digits are laid out as a numeral for them, scaled to have the point where it belongs. -/
theorem exists_parts {ds : List Char} (h : IsNumeral ds) (point : Int) :
    ∃ p : Parts, layout ds point = p.chars ∧ p.Fits ∧
      (p.coefficient : ℚ) * 10 ^ p.scale = Numeral.natural ds * 10 ^ (point - ds.length) := by
  have hlength : 0 < ds.length := List.length_pos_of_ne_nil h.ne_nil
  unfold layout
  split
  case isTrue hpositional =>
    split
    case isTrue hsmall =>
      let zeros := List.replicate (-point).toNat '0'
      refine ⟨⟨['0'], zeros ++ ds, none⟩, ?_, ⟨.inr rfl, ?_, .inl ?_⟩, ?_⟩
      · simp [Parts.chars, Parts.exponentChars, h.ne_nil, zeros]
      · exact fun c hc => (List.mem_append.mp hc).elim (isDigit_of_mem_zeros c) (h.digits c)
      · simp [h.ne_nil]
      · have hcoefficient : Numeral.natural (['0'] ++ (zeros ++ ds)) = Numeral.natural ds := by
          rw [natural_append, natural_append, natural_zeros]
          simp [Numeral.natural]
        simp only [Parts.coefficient, Parts.scale, hcoefficient, Option.getD_none,
          List.length_append, zeros, List.length_replicate]
        congr 2
        push_cast
        omega
    case isFalse hlarge =>
      dsimp only
      split
      case isTrue hshort =>
        let zeros := List.replicate (point.toNat - ds.length) '0'
        refine ⟨⟨ds ++ zeros, ['0'], none⟩, ?_, ⟨.inl (h.append isDigit_of_mem_zeros), ?_, .inl ?_⟩, ?_⟩
        · simp [Parts.chars, Parts.exponentChars, zeros]
        · simp
        · simp
        · have hcoefficient : Numeral.natural (ds ++ zeros ++ ['0']) =
              Numeral.natural ds * 10 ^ (point.toNat - ds.length + 1) := by
            rw [natural_append, natural_append, natural_zeros]
            simp [Numeral.natural, zeros, Nat.pow_succ, Nat.mul_assoc]
          simp only [Parts.coefficient, Parts.scale, hcoefficient, Option.getD_none]
          push_cast
          rw [mul_assoc, ← zpow_natCast, ← zpow_add₀ (by norm_num)]
          congr 2
          simp only [List.length_singleton]
          push_cast
          omega
      case isFalse hlong =>
        refine ⟨⟨ds.take point.toNat, ds.drop point.toNat, none⟩, ?_,
          ⟨.inl (h.take (by omega)), fun c hc => h.digits c (List.mem_of_mem_drop hc), .inl ?_⟩, ?_⟩
        · have hsome : ds.drop point.toNat ≠ [] := by
            rw [Ne, List.drop_eq_nil_iff]
            omega
          simp [Parts.chars, Parts.exponentChars, hsome]
        · rw [Ne, List.drop_eq_nil_iff]
          omega
        · simp only [Parts.coefficient, Parts.scale, List.take_append_drop, Option.getD_none,
            List.length_drop]
          congr 2
          omega
  case isFalse hscientific =>
    refine ⟨⟨ds.take 1, ds.drop 1, some (point - 1)⟩, ?_,
      ⟨.inl (h.take Nat.one_pos), fun c hc => h.digits c (List.mem_of_mem_drop hc), .inr ?_⟩, ?_⟩
    · simp only [Parts.chars, Parts.exponentChars, List.drop_eq_nil_iff, List.append_assoc]
    · simp
    · simp only [Parts.coefficient, Parts.scale, List.take_append_drop, Option.getD_some,
        List.length_drop]
      congr 2
      omega

end Layout

section Reading

variable {p : Parts}

/-- The sign and the digits of an exponent. -/
theorem exists_exponentText (e : Int) :
    ∃ ds, exponentText e = (if e < 0 then '-' else '+') :: ds ∧ ds ≠ [] ∧
      (∀ c ∈ ds, c.isDigit = true) ∧ Numeral.natural ds = e.natAbs := by
  have hdigits : ∀ c ∈ Nat.toDigits 10 e.natAbs, c.isDigit = true := fun c hc =>
    Nat.isDigit_of_mem_toDigits (by decide) (by decide) hc
  refine ⟨_, rfl, ?_⟩
  by_cases hshort : (Nat.toDigits 10 e.natAbs).length < 2
  · rw [if_pos hshort]
    refine ⟨List.cons_ne_nil _ _, List.forall_mem_cons.mpr ⟨rfl, hdigits⟩, ?_⟩
    rw [← List.singleton_append, natural_append, natural_toDigits]
    simp [Numeral.natural]
  · rw [if_neg hshort]
    exact ⟨Nat.toDigits_ne_nil, hdigits, natural_toDigits _⟩

private theorem exponent?_exponentText (e : Int) :
    Numeral.exponent? ('e' :: exponentText e) = some e := by
  obtain ⟨ds, htext, hsome, hdigits, hvalue⟩ := exists_exponentText e
  have hnatural : Numeral.natural? ds = some e.natAbs := by
    have hall : ds.all Char.isDigit = true := List.all_eq_true.mpr hdigits
    simp [Numeral.natural?, hsome, hall, hvalue]
  rw [htext]
  by_cases hneg : e < 0
  · simp [Numeral.exponent?, Numeral.sign, hneg, hnatural, abs_of_neg hneg]
  · simp [Numeral.exponent?, Numeral.sign, hneg, hnatural, abs_of_nonneg (not_lt.mp hneg)]

theorem Parts.Fits.isDigit_whole (h : p.Fits) : ∀ c ∈ p.whole, c.isDigit = true := by
  rcases h.whole with hwhole | hzero
  · exact hwhole.digits
  · rw [hzero]
    exact List.forall_mem_singleton.mpr rfl

/-- A numeral starts with a digit. -/
theorem Parts.Fits.exists_cons (h : p.Fits) : ∃ c rest, p.chars = c :: rest ∧ c.isDigit = true := by
  have hdigits := h.isDigit_whole
  obtain ⟨c, rest, hwhole⟩ : ∃ c rest, p.whole = c :: rest := by
    rcases h.whole with hwhole | hzero
    · exact List.exists_cons_of_ne_nil hwhole.ne_nil
    · exact ⟨'0', [], hzero⟩
  exact ⟨c, _, by rw [Parts.chars, hwhole]; rfl, hdigits c (hwhole ▸ List.mem_cons_self)⟩

private theorem Parts.exponent?_exponentChars (p : Parts) :
    Numeral.exponent? p.exponentChars = some (p.exponent.getD 0) := by
  unfold exponentChars
  cases p.exponent with
  | none => rfl
  | some e => exact exponent?_exponentText e

private theorem Parts.takeWhile_exponentChars (p : Parts) :
    p.exponentChars.takeWhile Char.isDigit = [] ∧
      p.exponentChars.dropWhile Char.isDigit = p.exponentChars := by
  unfold exponentChars
  cases p.exponent with
  | none => exact ⟨rfl, rfl⟩
  | some e => exact ⟨rfl, rfl⟩

private theorem span_isDigit {ds : List Char} (hds : ∀ c ∈ ds, c.isDigit = true) (rest : List Char) :
    (ds ++ rest).takeWhile Char.isDigit = ds ++ rest.takeWhile Char.isDigit ∧
      (ds ++ rest).dropWhile Char.isDigit = rest.dropWhile Char.isDigit :=
  ⟨List.takeWhile_append_of_pos hds, List.dropWhile_append_of_pos hds⟩

private theorem Parts.Fits.mantissa_chars (h : p.Fits) :
    Numeral.mantissa p.chars = (p.whole, p.fraction, p.exponentChars) := by
  obtain ⟨hnone, hrest⟩ := p.takeWhile_exponentChars
  by_cases hfraction : p.fraction = []
  · have hchars : p.chars = p.whole ++ p.exponentChars := by
      rw [Parts.chars, if_pos hfraction, List.append_nil]
    have hnodot : ∀ rest, p.exponentChars ≠ '.' :: rest := by
      intro rest
      unfold exponentChars
      cases p.exponent <;> simp
    obtain ⟨htake, hdrop⟩ := span_isDigit h.isDigit_whole p.exponentChars
    rw [Numeral.mantissa, hchars, htake, hdrop, hnone, hrest, List.append_nil, hfraction]
    split
    · rename_i heq
      exact absurd heq (hnodot _)
    · rfl
  · have hchars : p.chars = p.whole ++ '.' :: (p.fraction ++ p.exponentChars) := by
      rw [Parts.chars, if_neg hfraction, List.append_assoc]
      rfl
    obtain ⟨htake, hdrop⟩ := span_isDigit h.isDigit_whole ('.' :: (p.fraction ++ p.exponentChars))
    obtain ⟨htake', hdrop'⟩ := span_isDigit h.fraction p.exponentChars
    have hdot : ('.' :: (p.fraction ++ p.exponentChars)).takeWhile Char.isDigit = [] ∧
        ('.' :: (p.fraction ++ p.exponentChars)).dropWhile Char.isDigit =
          '.' :: (p.fraction ++ p.exponentChars) := ⟨rfl, rfl⟩
    rw [Numeral.mantissa, hchars, htake, hdrop, hdot.1, hdot.2, List.append_nil]
    simp only [htake', hdrop', hnone, hrest, List.append_nil]

/-- What starts with a digit is no name of a number. -/
theorem ofList_ne_of_isDigit {c : Char} (hc : c.isDigit = true) (rest : List Char) {word : String}
    (hword : word.toList.head?.any Char.isDigit = false) :
    String.ofList ((c :: rest).map Char.toLower) ≠ word := by
  have hlower : c.toLower = c := by
    have hle : c.toNat ≤ 57 := by
      simp only [Char.isDigit, Bool.and_eq_true, decide_eq_true_iff] at hc
      exact hc.2
    unfold Char.toLower
    rw [dif_neg]
    rintro ⟨hge, -⟩
    change 65 ≤ c.toNat at hge
    omega
  rintro rfl
  rw [List.map_cons, hlower, String.toList_ofList] at hword
  cases hc.symm.trans hword

/-- A numeral is read as the double nearest to it. -/
theorem Parts.Fits.decimal?_chars (h : p.Fits) (negative : Bool) :
    Numeral.decimal? (if negative then '-' :: p.chars else p.chars) =
      some (nearest negative p.coefficient p.scale) := by
  obtain ⟨c, rest, hcons, hc⟩ := h.exists_cons
  have hsign : Numeral.sign (if negative then '-' :: p.chars else p.chars) = (negative, p.chars) := by
    cases negative with
    | true => rfl
    | false =>
      rw [hcons]
      simp only [Bool.false_eq_true, if_false, Numeral.sign]
      split
      · rename_i heq
        obtain ⟨rfl, -⟩ := List.cons.inj heq
        exact absurd hc (by decide)
      · rename_i heq
        obtain ⟨rfl, -⟩ := List.cons.inj heq
        exact absurd hc (by decide)
      · rfl
  have hwhole : p.whole ≠ [] := by
    rcases h.whole with hwhole | hzero
    · exact hwhole.ne_nil
    · simp [hzero]
  have hinf := ofList_ne_of_isDigit hc rest (rfl : "inf".toList.head?.any Char.isDigit = false)
  have hinfinity :=
    ofList_ne_of_isDigit hc rest (rfl : "infinity".toList.head?.any Char.isDigit = false)
  have hnan := ofList_ne_of_isDigit hc rest (rfl : "nan".toList.head?.any Char.isDigit = false)
  rw [← hcons] at hinf hinfinity hnan
  simp [Numeral.decimal?, hsign, hinf, hinfinity, hnan, h.mantissa_chars, p.exponent?_exponentChars,
    hwhole, Parts.coefficient, Parts.scale]

end Reading

section Text

variable {x : Float} {units : Nat} {exponent : Int}

private theorem text_eq (h : magnitude x = .finite units exponent) (hpos : 0 < units) :
    (text x).toList =
      let digits := Nat.toDigits 10 (shortest units exponent).1
      let body := layout (dropTrailingZeros digits) (digits.length + (shortest units exponent).2)
      if isNegative x then '-' :: body else body := by
  obtain ⟨n, rfl⟩ := Nat.exists_eq_add_of_le' hpos
  simp only [text, h, String.toList_ofList]
  simp

private theorem exists_parts_text_of_pos (h : magnitude x = .finite units exponent)
    (hpos : 0 < units) : ∃ p : Parts, p.Fits ∧ nearest (isNegative x) p.coefficient p.scale = x ∧
      (text x).toList = if isNegative x then '-' :: p.chars else p.chars := by
  have hd := isDouble_of_magnitude h hpos
  obtain ⟨hn, hnear⟩ := shortest_spec hd
  have htext := text_eq h hpos
  generalize shortest units exponent = decimal at hn hnear htext
  obtain ⟨n, e⟩ := decimal
  have hnumeral := isNumeral_toDigits hn
  obtain ⟨zeros, hzeros⟩ := exists_dropTrailingZeros (Nat.toDigits 10 n)
  obtain ⟨p, hlayout, hfits, hvalue⟩ :=
    exists_parts hnumeral.dropTrailingZeros ((Nat.toDigits 10 n).length + e)
  have hscaled : (p.coefficient : ℚ) * 10 ^ p.scale = n * 10 ^ e := by
    have hdigits : Numeral.natural (dropTrailingZeros (Nat.toDigits 10 n)) * 10 ^ zeros = n := by
      have hall := natural_toDigits n
      rw [hzeros, natural_append, natural_zeros, List.length_replicate, add_zero] at hall
      exact hall
    have hlength : ((Nat.toDigits 10 n).length : Int) + e -
        (dropTrailingZeros (Nat.toDigits 10 n)).length = zeros + e := by
      have hall := congrArg List.length hzeros
      rw [List.length_append, List.length_replicate] at hall
      omega
    rw [hvalue, hlength, zpow_add₀ (by norm_num), zpow_natCast, ← mul_assoc]
    congr 1
    exact_mod_cast hdigits
  have hcoefficient : 0 < p.coefficient := by
    by_contra hzero
    rw [Nat.eq_zero_of_not_pos hzero, Nat.cast_zero, zero_mul] at hscaled
    have : (0 : ℚ) < n * 10 ^ e := mul_pos (by exact_mod_cast hn) (zpow_pos (by norm_num) e)
    exact this.ne hscaled
  refine ⟨p, hfits, ?_, ?_⟩
  · rw [nearest_eq hd hcoefficient (by rw [hscaled]; exact hnear)]
    exact (eq_double_of_magnitude h hpos).symm
  · rw [htext, ← hlayout]

/-- The text of a finite double is a numeral for the double, after a sign if the double is negative. -/
theorem exists_parts_text (h : magnitude x = .finite units exponent) :
    ∃ p : Parts, p.Fits ∧ nearest (isNegative x) p.coefficient p.scale = x ∧
      (text x).toList = if isNegative x then '-' :: p.chars else p.chars := by
  rcases Nat.eq_zero_or_pos units with rfl | hpos
  · have hx := eq_zero_of_magnitude h
    refine ⟨⟨['0'], ['0'], none⟩, ⟨.inr rfl, by simp, .inl (List.cons_ne_nil _ _)⟩, ?_, ?_⟩
    · rw [hx]
      cases isNegative x <;> decide +kernel
    · simp only [text, h, String.toList_ofList]
      simp [Parts.chars, Parts.exponentChars]
  · exact exists_parts_text_of_pos h hpos

/-- The text of a double is read as the double. -/
theorem decimal?_text (x : Float) : Numeral.decimal? (text x).toList = some x := by
  cases h : magnitude x with
  | notANumber =>
    have htext : (text x).toList = "nan".toList := by
      simp [text, h]
    rw [htext, eq_notANumber_of_magnitude h]
    decide +kernel
  | infinite =>
    have hx := eq_infinity_of_magnitude h
    have htext : (text x).toList = if isNegative x then "-inf".toList else "inf".toList := by
      simp only [text, h, String.toList_ofList]
      simp
    rw [htext, hx]
    cases isNegative x <;> decide +kernel
  | finite units exponent =>
    obtain ⟨p, hfits, hnearest, htext⟩ := exists_parts_text h
    rw [htext, hfits.decimal?_chars, hnearest]

end Text

end CodeTwins.Decimal
