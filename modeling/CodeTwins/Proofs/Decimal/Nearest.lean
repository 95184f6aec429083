import CodeTwins.Proofs.Decimal.Bits

/-!
# The double nearest to a decimal number

A decimal number is read as the double that it is rounded to, whatever its digits and its exponent.
-/
namespace CodeTwins.Decimal

open Float.Model

variable {units : Nat} {exponent : Int}

/-- A double is rounded to itself. -/
theorem near_self : Near units exponent (units * 2 ^ exponent) := by
  have hvalue : (units : ℚ) * 2 ^ exponent / 2 ^ exponent = units :=
    mul_div_cancel_right₀ _ (two_zpow_pos exponent).ne'
  have hreach := @le_reach units exponent
  exact ⟨.inl (by rw [hvalue]; linarith), .inl (by rw [hvalue]; linarith)⟩

/-- The powers of ten that are doubles. -/
theorem magnitude_exactlyRepresentablePowersOfTen :
    ∀ e (_ : e < Float.exactlyRepresentablePowersOfTen.size),
      let p := Float.exactlyRepresentablePowersOfTen[e]
      let units := 10 ^ e * 2 ^ 52 / 2 ^ (10 ^ e).log2
      magnitude p = .finite units ((10 ^ e).log2 - 52) ∧ isNegative p = false ∧ 2 ^ 52 ≤ units ∧
        units * 2 ^ (10 ^ e).log2 = 10 ^ e * 2 ^ 52 := by
  decide +kernel

theorem unpack_exactlyRepresentablePowersOfTen {e : Nat}
    (he : e < Float.exactlyRepresentablePowersOfTen.size) :
    ∃ m exponent, ∃ h : 0 < m,
      Float.exactlyRepresentablePowersOfTen[e].toModel.unpack = .finite .positive m exponent h ∧
        2 ^ 52 ≤ m ∧ (m : ℚ) * 2 ^ exponent = 10 ^ e := by
  obtain ⟨hmagnitude, hpositive, hunits, hvalue⟩ := magnitude_exactlyRepresentablePowersOfTen e he
  have hpos := Nat.lt_of_lt_of_le (Nat.two_pow_pos 52) hunits
  have hd := isDouble_of_magnitude hmagnitude hpos
  have hdouble := eq_double_of_magnitude hmagnitude hpos
  have hsign : signOf Float.exactlyRepresentablePowersOfTen[e] = .positive := by
    simp [signOf, hpositive]
  rw [hsign] at hdouble
  refine ⟨_, (10 ^ e).log2 - 52, hpos, ?_, hunits, ?_⟩
  · rw [hdouble]
    exact hd.unpack_double .positive
  · have hcast : ((10 ^ e * 2 ^ 52 / 2 ^ (10 ^ e).log2 : Nat) : ℚ) * 2 ^ (10 ^ e).log2 =
        10 ^ e * 2 ^ 52 := by exact_mod_cast hvalue
    rw [zpow_sub₀ (by norm_num), zpow_natCast, mul_div_assoc', hcast]
    exact mul_div_cancel_right₀ _ (by norm_num)

/-- A natural number of at most 53 binary digits is a double. -/
theorem unpack_toFloat {n : Nat} (hpos : 0 < n) (hlt : n < 2 ^ 53) :
    ∃ m exponent, ∃ h : 0 < m,
      n.toUInt64.toFloat.toModel.unpack = .finite .positive m exponent h ∧
        2 ^ 52 ≤ m ∧ (m : ℚ) * 2 ^ exponent = n := by
  have hlog : n.log2 ≤ 52 := Nat.lt_succ_iff.mp ((Nat.log2_lt hpos.ne').mpr hlt)
  obtain ⟨shift, hshift⟩ : ∃ shift, n.log2 + shift = 52 := ⟨52 - n.log2, by omega⟩
  have hlarge : 2 ^ 52 ≤ n * 2 ^ shift := by
    rw [← hshift, Nat.pow_add]
    exact Nat.mul_le_mul_right _ (Nat.log2_self_le hpos.ne')
  have hsmall : n * 2 ^ shift < 2 ^ 53 := by
    have hpow : 2 ^ 53 = 2 ^ (n.log2 + 1) * 2 ^ shift := by
      rw [← Nat.pow_add]
      congr 1
      omega
    rw [hpow]
    exact Nat.mul_lt_mul_of_pos_right Nat.lt_log2_self (Nat.two_pow_pos shift)
  have hd : IsDouble (n * 2 ^ shift) (-shift) :=
    ⟨by omega, hsmall, by omega, by omega, .inl hlarge⟩
  have hround : UnpackedFloat.round Format.binary64 .positive n 0 =
      .finite .positive (n * 2 ^ shift) (-shift) hd.pos := by
    have hamount : (0 - Format.binary64.targetExponent (totalExponent n 0)).toNat = shift := by
      rw [targetExponent_eq]
      omega
    have htells := tells_exact (n * 2 ^ shift)
    rw [← mul_div_cancel_right₀ ((n * 2 ^ shift : Nat) : ℚ) (two_zpow_pos (-shift)).ne'] at htells
    have hexponent : -(shift : Int) ≤
        Format.binary64.targetExponent (totalExponent (n * 2 ^ shift) (-shift)) := by
      have : 52 ≤ (n * 2 ^ shift).log2 := (Nat.le_log2 hd.pos.ne').mpr hlarge
      rw [targetExponent_eq]
      omega
    simp only [UnpackedFloat.round, UnpackedFloat.decreaseExponent, hamount, Nat.shiftLeft_eq]
    rw [zero_sub]
    exact roundWithAccuracy_eq hd near_self htells hexponent .positive
  have hfloat : n.toUInt64.toFloat = double .positive (n * 2 ^ shift) (-shift) hd.pos := by
    have hword : n.toUInt64.toNat = n := Nat.mod_eq_of_lt (by omega)
    have hsign : compare (n : Int) 0 = .gt := compare_gt_iff_gt.mpr (by omega)
    change Float.ofModel (.pack (UnpackedFloat.normalize Format.binary64 n.toUInt64.toNat 0 _)) = _
    rw [hword]
    simp only [UnpackedFloat.normalize, hsign]
    exact congrArg (fun f => Float.ofModel (.pack f)) hround
  refine ⟨_, -shift, hd.pos, ?_, hlarge, ?_⟩
  · rw [hfloat]
    exact hd.unpack_double .positive
  · push_cast
    rw [zpow_neg, zpow_natCast, mul_assoc, mul_inv_cancel₀ (by positivity), mul_one]

section Scientific

variable {c e : Nat}

/-- A natural number is read as the double that it is rounded to. -/
theorem ofScientific_natural (hd : IsDouble units exponent) (hc : 0 < c)
    (hx : Near units exponent c) :
    Float.ofScientific c false 0 = double .positive units exponent hd.pos := by
  unfold Float.ofScientific
  split
  case isTrue h =>
    obtain ⟨m₁, e₁, h₁, hn, hlarge, hvalue₁⟩ := unpack_toFloat hc h.1
    obtain ⟨m₂, e₂, h₂, hpower, hlarge₂, hvalue₂⟩ :=
      @unpack_exactlyRepresentablePowersOfTen 0 (by decide)
    change Float.ofModel (.pack (UnpackedFloat.mul _ _ _)) = _
    rw [hn, hpower, mul_eq hd (by rw [hvalue₁, hvalue₂, pow_zero, mul_one]; exact hx)
      (hlarge.trans (Nat.le_mul_of_pos_right m₁ h₂))]
    rfl
  case isFalse h =>
    have hvalue : ((c <<< Format.binary64.mantissaBits : Nat) : ℚ) *
        2 ^ (-(Format.binary64.mantissaBits : Int)) * ((10 ^ (0 : Int).toNat : Nat) * 2 ^ (0 : Int)) =
        c := by
      rw [Nat.shiftLeft_eq]
      push_cast
      rw [zpow_neg, zpow_natCast, mul_assoc (c : ℚ), mul_inv_cancel₀ (by positivity)]
      norm_num
    have hlarge : 2 ^ 52 ≤ c <<< Format.binary64.mantissaBits * 10 ^ (0 : Int).toNat := by
      rw [Nat.shiftLeft_eq]
      simp only [Format.mantissaBits, Int.toNat_zero, pow_zero, mul_one]
      omega
    have hzero : ¬ (0 : Int) < -((2 ^ 11 : Int) + c.log2) := by omega
    change Float.ofModel (.pack (UnpackedFloat.ofScientific Format.binary64 c 0)) = _
    simp only [UnpackedFloat.ofScientific, hc.ne', dite_false]
    rw [if_neg (by norm_num), if_neg hzero, if_pos le_rfl, mul_eq hd (by rw [hvalue]; exact hx) hlarge]
    rfl

/-- A quotient by a power of ten is read as the double that it is rounded to. -/
theorem ofScientific_quotient (hd : IsDouble units exponent) (hc : 0 < c) (he : 0 < e)
    (hx : Near units exponent (c / 10 ^ e)) (hsize : (e : Int) ≤ 2048 + c.log2) :
    Float.ofScientific c true e = double .positive units exponent hd.pos := by
  unfold Float.ofScientific
  split
  case isTrue h =>
    obtain ⟨m₁, e₁, h₁, hn, -, hvalue₁⟩ := unpack_toFloat hc h.1
    have hsize : e < Float.exactlyRepresentablePowersOfTen.size := Nat.lt_succ_of_le h.2
    obtain ⟨m₂, e₂, h₂, hpower, -, hvalue₂⟩ := unpack_exactlyRepresentablePowersOfTen hsize
    change Float.ofModel (.pack (UnpackedFloat.div _ _ _)) = _
    rw [hn, hpower, div_eq hd (by rw [hvalue₁, hvalue₂]; exact hx)]
    rfl
  case isFalse h =>
    have hnegative : Int.negOfNat e = -(e : Int) := Int.negOfNat_eq
    have hvalue : (c : ℚ) * 2 ^ (0 : Int) / ((10 ^ (-(-(e : Int))).toNat : Nat) * 2 ^ (0 : Int)) =
        c / 10 ^ e := by
      simp
    change Float.ofModel (.pack (UnpackedFloat.ofScientific Format.binary64 c (Int.negOfNat e))) = _
    rw [hnegative]
    simp only [UnpackedFloat.ofScientific, hc.ne', dite_false]
    rw [if_neg (by omega), if_neg (by norm_num; omega), if_neg (by omega),
      div_eq hd (by rw [hvalue]; exact hx)]
    rfl

end Scientific

section Nearest

variable {c : Nat} {e : Int}

theorem digitCount_pos (n : Nat) : 0 < digitCount n :=
  Nat.length_toDigits_pos

theorem lt_pow_digitCount (n : Nat) : n < 10 ^ digitCount n :=
  (Nat.length_toDigits_le_iff (by decide) (digitCount_pos n)).mp le_rfl

theorem pow_le_of_pos (hc : 0 < c) : 10 ^ (digitCount c - 1) ≤ c := by
  rcases Nat.eq_zero_or_pos (digitCount c - 1) with hone | hmore
  · rw [hone]
    exact hc
  · by_contra hlt
    have := (Nat.length_toDigits_le_iff (by decide) hmore).mpr (Nat.lt_of_not_le hlt)
    have := digitCount_pos c
    unfold digitCount at *
    omega

private theorem lt_of_ten_zpow_lt {a b : Int} (h : (10 : ℚ) ^ a < 10 ^ b) : a < b :=
  (zpow_lt_zpow_iff_right₀ (by norm_num)).mp h

private theorem two_pow_lt_ten_pow : 2 ^ 1075 < 10 ^ 324 ∧ 2 ^ 1024 < 10 ^ 309 := by
  decide +kernel

/-- A number that is rounded to a double has some 400 digits at most before or after the point. -/
theorem size_of_near (hd : IsDouble units exponent) (hc : 0 < c)
    (hx : Near units exponent (c * 10 ^ e)) :
    -400 ≤ (digitCount c : Int) + e ∧ (digitCount c : Int) + e ≤ 400 := by
  have hpos := digitCount_pos c
  have hten : (0 : ℚ) < 10 ^ e := zpow_pos (by norm_num) e
  have hunits : (1 : ℚ) ≤ units ∧ (units : ℚ) + 1 ≤ 2 ^ 53 := by
    exact ⟨by exact_mod_cast hd.pos, by exact_mod_cast hd.lt⟩
  have hlarge : (10 : ℚ) ^ (-324 : Int) < 10 ^ ((digitCount c : Int) + e) :=
    calc
      (10 : ℚ) ^ (-324 : Int) < 2 ^ (-1075 : Int) := by
        rw [zpow_neg, zpow_neg]
        exact inv_strictAnti₀ (two_zpow_pos 1075) (by exact_mod_cast two_pow_lt_ten_pow.1)
      _ = 2⁻¹ * 2 ^ (-1074 : Int) := by
        rw [← zpow_neg_one, ← zpow_add₀ (by norm_num)]
        norm_num
      _ ≤ 2⁻¹ * 2 ^ exponent :=
        mul_le_mul_of_nonneg_left (zpow_le_zpow_right₀ (by norm_num) hd.low) (by norm_num)
      _ ≤ c * 10 ^ e := (le_div_iff₀ (two_zpow_pos exponent)).mp (by linarith [hx.le])
      _ < 10 ^ digitCount c * 10 ^ e :=
        mul_lt_mul_of_pos_right (by exact_mod_cast lt_pow_digitCount c) hten
      _ = 10 ^ ((digitCount c : Int) + e) := by rw [zpow_add₀ (by norm_num), zpow_natCast]
  have hsmall : (10 : ℚ) ^ ((digitCount c : Int) - 1 + e) < 10 ^ (309 : Int) :=
    calc
      (10 : ℚ) ^ ((digitCount c : Int) - 1 + e) = 10 ^ (digitCount c - 1) * 10 ^ e := by
        rw [zpow_add₀ (by norm_num), ← zpow_natCast, Nat.cast_sub hpos, Nat.cast_one]
      _ ≤ c * 10 ^ e := mul_le_mul_of_nonneg_right (by exact_mod_cast pow_le_of_pos hc) hten.le
      _ < 2 ^ 53 * 2 ^ exponent :=
        (div_lt_iff₀ (two_zpow_pos exponent)).mp (by linarith [hx.ge])
      _ ≤ 2 ^ 53 * 2 ^ (971 : Int) :=
        mul_le_mul_of_nonneg_left (zpow_le_zpow_right₀ (by norm_num) hd.high) (by norm_num)
      _ = 2 ^ (1024 : Int) := by rw [← zpow_natCast, ← zpow_add₀ (by norm_num)]; norm_num
      _ < 10 ^ (309 : Int) := by exact_mod_cast two_pow_lt_ten_pow.2
  have := lt_of_ten_zpow_lt hlarge
  have := lt_of_ten_zpow_lt hsmall
  omega

private theorem digitCount_le_log2 (hc : 0 < c) : digitCount c ≤ c.log2 + 1 := by
  have hpow : 2 ^ (digitCount c - 1) ≤ c :=
    (Nat.pow_le_pow_left (by decide) _).trans (pow_le_of_pos hc)
  have := (Nat.le_log2 hc.ne').mpr hpow
  omega

/-- A decimal number is read as the double that it is rounded to. -/
theorem nearest_eq (hd : IsDouble units exponent) (hc : 0 < c)
    (hx : Near units exponent (c * 10 ^ e)) (negative : Bool) :
    nearest negative c e =
      double (if negative then .negative else .positive) units exponent hd.pos := by
  obtain ⟨hlow, hhigh⟩ := size_of_near hd hc hx
  have hpositive : nearest false c e = double .positive units exponent hd.pos := by
    have hsome : (c = 0 || (digitCount c : Int) + e < -400) = false := by
      simp [hc.ne', hlow]
    simp only [nearest, hsome, if_neg (not_lt.mpr hhigh)]
    by_cases he : 0 ≤ e
    · obtain ⟨e, rfl⟩ := Int.eq_ofNat_of_zero_le he
      have hvalue : ((c * Nat.pow 10 e : Nat) : ℚ) = c * 10 ^ (e : Int) := by
        rw [zpow_natCast]
        exact_mod_cast rfl
      simp only [if_pos he, Int.toNat_natCast]
      exact ofScientific_natural hd (Nat.mul_pos hc (Nat.pow_pos (by decide)))
        (by rw [hvalue]; exact hx)
    · obtain ⟨e, rfl⟩ : ∃ n : Nat, e = -(n : Int) := ⟨(-e).toNat, by omega⟩
      have hlog := digitCount_le_log2 hc
      simp only [if_neg he, neg_neg, Int.toNat_natCast]
      refine ofScientific_quotient hd hc (by omega) ?_ (by omega)
      rw [zpow_neg, zpow_natCast] at hx
      exact hx
  cases negative with
  | false => exact hpositive
  | true =>
    change -nearest false c e = _
    rw [hpositive]
    exact hd.neg_double

end Nearest

end CodeTwins.Decimal
