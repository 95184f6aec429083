import CodeTwins.Proofs.Decimal.Rounding

/-!
# The bits of a double

A double is known by its sign, its units and its exponent, which its 64 bits hold.
-/
namespace CodeTwins.Decimal

open Float.Model
open Float.Model.UnpackedFloat (Sign)

/-- The finite double with a sign, units and an exponent. -/
def double (sign : Sign) (units : Nat) (exponent : Int) (h : 0 < units) : Float :=
  .ofModel (.pack (.finite sign units exponent h))

def signOf (x : Float) : Sign :=
  if isNegative x then .negative else .positive

private theorem eq_of_toBits {x y : Float} (h : x.toBits = y.toBits) : x = y := by
  obtain ⟨⟨bits, valid⟩⟩ := x
  obtain ⟨⟨bits', valid'⟩⟩ := y
  cases h
  rfl

private theorem eq_of_toNat_toBits {x y : Float} (h : x.toBits.toNat = y.toBits.toNat) : x = y :=
  eq_of_toBits (UInt64.toNat_inj.mp h)

section Packed

variable {units : Nat} {exponent : Int}

private theorem toNat_packComponents (sign : Sign) (e : BitVec 11) (m : BitVec 52) :
    (UnpackedFloat.packComponents Format.binary64 sign e m).toNat =
      (sign.toBitVec.toNat * 2 ^ 11 + e.toNat) * 2 ^ 52 + m.toNat := by
  simp only [UnpackedFloat.packComponents, BitVec.toNat_append]
  rw [← Nat.shiftLeft_add_eq_or_of_lt e.isLt, ← Nat.shiftLeft_add_eq_or_of_lt m.isLt,
    Nat.shiftLeft_eq, Nat.shiftLeft_eq]

/-- The exponent as the bits have it, which is zero for the smallest numbers. -/
def biased (units : Nat) (exponent : Int) : Nat :=
  if 2 ^ 52 ≤ units then (exponent + 1075).toNat else 0

private theorem IsDouble.biased_lt (hd : IsDouble units exponent) : biased units exponent < 2047 := by
  have := hd.low
  have := hd.high
  unfold biased
  split <;> omega

private theorem IsDouble.pack_eq (hd : IsDouble units exponent) (sign : Sign) :
    UnpackedFloat.pack Format.binary64 (.finite sign units exponent hd.pos) =
      UnpackedFloat.packComponents Format.binary64 sign (BitVec.ofNat 11 (biased units exponent))
        (BitVec.ofNat 52 units) := by
  have hlow := hd.low
  have hhigh := hd.high
  have hexponent : exponent + (Format.binary64.exponentBias : Int) + (52 : Nat) =
      exponent + 1075 := by
    simp only [Format.exponentBias]
    norm_num
    omega
  have hfits : ¬ 2 ^ 11 ≤ (exponent + 1075).toNat + 1 := by omega
  simp only [UnpackedFloat.pack, hexponent, if_neg hfits]
  by_cases hnormal : 2 ^ 52 ≤ units
  · have hlog : units.log2 = 52 := (Nat.log2_eq_iff hd.pos.ne').mpr ⟨hnormal, hd.lt⟩
    simp only [hlog, Format.mantissaBits, biased, if_pos hnormal, Nat.reduceAdd, if_true]
  · have hlog : units.log2 < 52 := (Nat.log2_lt hd.pos.ne').mpr (by omega)
    have hshort : ¬ units.log2 + 1 = Format.binary64.mantissaBits := by
      simp only [Format.mantissaBits]
      omega
    simp only [if_neg hshort, biased, if_neg hnormal]

/-- The bits of a double: its sign, its exponent and its units without the leading one. -/
theorem IsDouble.toNat_toBits (hd : IsDouble units exponent) (sign : Sign) :
    (double sign units exponent hd.pos).toBits.toNat =
      (sign.toBitVec.toNat * 2 ^ 11 + biased units exponent) * 2 ^ 52 + units % 2 ^ 52 := by
  have hbits : (double sign units exponent hd.pos).toBits.toNat =
      (UnpackedFloat.pack Format.binary64 (.finite sign units exponent hd.pos)).toNat := rfl
  have hbiased := hd.biased_lt
  rw [hbits, hd.pack_eq, toNat_packComponents, BitVec.toNat_ofNat, BitVec.toNat_ofNat,
    Nat.mod_eq_of_lt (by omega : biased units exponent < 2 ^ 11)]

private theorem unpackSign_packComponents (sign : Sign) (e : BitVec 11) (m : BitVec 52) :
    UnpackedFloat.unpackSign (UnpackedFloat.packComponents Format.binary64 sign e m) =
      sign.toBitVec := by
  refine BitVec.eq_of_toNat_eq ?_
  have he := e.isLt
  have hm := m.isLt
  have hs := sign.toBitVec.isLt
  simp only [UnpackedFloat.unpackSign, BitVec.toNat_cast, BitVec.extractLsb_toNat]
  rw [toNat_packComponents]
  simp only [Nat.shiftRight_eq_div_pow]
  omega

/-- A double is what its bits hold. -/
theorem IsDouble.unpack_double (hd : IsDouble units exponent) (sign : Sign) :
    (double sign units exponent hd.pos).toModel.unpack = .finite sign units exponent hd.pos := by
  have hunpack : (double sign units exponent hd.pos).toModel.unpack =
      UnpackedFloat.unpack Format.binary64
        (UnpackedFloat.pack Format.binary64 (.finite sign units exponent hd.pos)) := rfl
  have hpos := hd.pos
  have hlt := hd.lt
  have hlow := hd.low
  have hbiased : (BitVec.ofNat 11 (biased units exponent)).toNat = biased units exponent := by
    have := hd.biased_lt
    rw [BitVec.toNat_ofNat, Nat.mod_eq_of_lt (by omega)]
  have hfinite : BitVec.ofNat 11 (biased units exponent) ≠ -1#11 := by
    intro h
    have := hd.biased_lt
    have : biased units exponent = 2047 := by
      rw [← hbiased, h]
      rfl
    omega
  have hsign : Sign.ofBitVec sign.toBitVec = sign := by cases sign <;> rfl
  have hbias : (Format.binary64.exponentBias : Int) + (52 : Nat) = 1075 := by
    simp only [Format.exponentBias]
    norm_num
  rw [hunpack, hd.pack_eq]
  simp only [UnpackedFloat.unpack, UnpackedFloat.unpackMantissa_packComponents,
    UnpackedFloat.unpackExponent_packComponents, unpackSign_packComponents, hsign, hbiased, hbias,
    if_neg hfinite]
  by_cases hnormal : 2 ^ 52 ≤ units
  · have hexponent : biased units exponent = (exponent + 1075).toNat := if_pos hnormal
    have hsome : BitVec.ofNat 11 (biased units exponent) ≠ 0#11 := by
      intro h
      have : biased units exponent = 0 := by
        rw [← hbiased, h]
        rfl
      omega
    have hunits : (1#1 ++ BitVec.ofNat 52 units).toNat = units := by
      rw [BitVec.toNat_append, ← Nat.shiftLeft_add_eq_or_of_lt (BitVec.isLt _), Nat.shiftLeft_eq,
        BitVec.toNat_ofNat]
      norm_num
      omega
    simp only [if_neg hsome, hunits]
    congr 1
    omega
  · obtain rfl : exponent = -1074 := hd.normal.resolve_left hnormal
    have hexponent : biased units (-1074) = 0 := if_neg hnormal
    have hunits : (BitVec.ofNat 52 units).toNat = units := by
      rw [BitVec.toNat_ofNat, Nat.mod_eq_of_lt (by omega)]
    have hsome : BitVec.ofNat 52 units ≠ 0#52 := by
      intro h
      rw [h] at hunits
      simp only [BitVec.toNat_zero] at hunits
      omega
    simp only [hexponent, if_true, dif_neg hsome, hunits]
    rfl

theorem IsDouble.neg_double (hd : IsDouble units exponent) :
    -double .positive units exponent hd.pos = double .negative units exponent hd.pos := by
  change Float.ofModel (.pack (double .positive units exponent hd.pos).toModel.unpack.neg) = _
  rw [hd.unpack_double]
  rfl

end Packed

section Words

variable {w : UInt64}

private theorem toNat_unpackExponent (b : BitVec 64) :
    (@UnpackedFloat.unpackExponent Format.binary64 b).toNat = b.toNat / 2 ^ 52 % 2 ^ 11 := by
  simp only [UnpackedFloat.unpackExponent, BitVec.toNat_cast, BitVec.extractLsb_toNat,
    Nat.shiftRight_eq_div_pow]

private theorem toNat_unpackMantissa (b : BitVec 64) :
    (@UnpackedFloat.unpackMantissa Format.binary64 b).toNat = b.toNat % 2 ^ 52 := by
  simp only [UnpackedFloat.unpackMantissa, BitVec.toNat_cast, BitVec.extractLsb_toNat,
    Nat.shiftRight_zero]

/-- The words that stand for no number: all bits of the exponent are set, and some of the fraction. -/
def IsNoNumber (w : UInt64) : Prop :=
  w.toNat / 2 ^ 52 % 2 ^ 11 = 2047 ∧ w.toNat % 2 ^ 52 ≠ 0

instance (w : UInt64) : Decidable (IsNoNumber w) :=
  inferInstanceAs (Decidable (_ ∧ _))

private theorem isNoNumber_iff : IsNoNumber w ↔
    @UnpackedFloat.unpackExponent Format.binary64 w.toBitVec = -1#11 ∧
      @UnpackedFloat.unpackMantissa Format.binary64 w.toBitVec ≠ 0#52 := by
  have hexponent := toNat_unpackExponent w.toBitVec
  have hmantissa := toNat_unpackMantissa w.toBitVec
  refine and_congr ?_ (not_congr ?_)
  · rw [← BitVec.toNat_inj, hexponent]
    rfl
  · rw [← BitVec.toNat_inj, hmantissa]
    rfl

end Words

section Magnitudes

variable {x : Float} {units : Nat} {exponent : Int}

theorem isDouble_of_magnitude (h : magnitude x = .finite units exponent) (hpos : 0 < units) :
    IsDouble units exponent := by
  simp only [magnitude] at h
  split at h
  · split at h <;> cases h
  · split at h <;> cases h <;> constructor <;> omega

private theorem isNegative_iff : isNegative x = true ↔ 2 ^ 63 ≤ x.toBits.toNat := by
  have hlt := x.toBits.toNat_lt
  rw [isNegative, beq_iff_eq, ← UInt64.toNat_inj, UInt64.toNat_shiftRight]
  have hshift : x.toBits.toNat >>> (UInt64.toNat 63 % 64) = x.toBits.toNat / 2 ^ 63 :=
    Nat.shiftRight_eq_div_pow _ _
  rw [hshift, UInt64.toNat_one]
  omega

private theorem toNat_signOf : (signOf x).toBitVec.toNat = x.toBits.toNat / 2 ^ 63 := by
  have hlt := x.toBits.toNat_lt
  unfold signOf
  split
  case isTrue h =>
    have := isNegative_iff.mp h
    change 1 = _
    omega
  case isFalse h =>
    have := isNegative_iff.not.mp h
    change 0 = _
    omega

/-- A double that is not zero is known by its magnitude and its sign. -/
theorem eq_double_of_magnitude (h : magnitude x = .finite units exponent) (hpos : 0 < units) :
    x = double (signOf x) units exponent hpos := by
  have hd := isDouble_of_magnitude h hpos
  refine eq_of_toNat_toBits ?_
  rw [hd.toNat_toBits, toNat_signOf, biased]
  simp only [magnitude] at h
  split at h
  · split at h <;> cases h
  · split at h <;> cases h <;> split <;> omega

theorem eq_zero_of_magnitude (h : magnitude x = .finite 0 exponent) :
    x = if isNegative x then -Float.ofBits 0 else Float.ofBits 0 := by
  have hlt := x.toBits.toNat_lt
  have hbits : x.toBits.toNat % 2 ^ 63 = 0 := by
    simp only [magnitude] at h
    split at h
    · split at h <;> cases h
    · split at h <;> injection h with hunits <;> omega
  have hzero : (Float.ofBits 0).toBits.toNat = 0 := by decide
  have hminus : (-Float.ofBits 0).toBits.toNat = 2 ^ 63 := by decide
  refine eq_of_toNat_toBits ?_
  split
  case isTrue hneg =>
    have := isNegative_iff.mp hneg
    omega
  case isFalse hneg =>
    have := isNegative_iff.not.mp hneg
    omega

theorem eq_infinity_of_magnitude (h : magnitude x = .infinite) : x = infinity (isNegative x) := by
  have hlt := x.toBits.toNat_lt
  have hbits : x.toBits.toNat % 2 ^ 63 = 0x7FF0000000000000 := by
    simp only [magnitude] at h
    split at h
    · split at h
      · omega
      · cases h
    · split at h <;> cases h
  have hplus : (infinity false).toBits.toNat = 0x7FF0000000000000 := by decide
  have hminus : (infinity true).toBits.toNat = 0xFFF0000000000000 := by decide
  refine eq_of_toNat_toBits ?_
  cases hneg : isNegative x with
  | true =>
    have := isNegative_iff.mp hneg
    omega
  | false =>
    have := isNegative_iff.not.mp (Bool.eq_false_iff.mp hneg)
    omega

/-- There is only one value that is no number. -/
theorem eq_notANumber_of_magnitude (h : magnitude x = .notANumber) : x = notANumber := by
  have hbits : IsNoNumber x.toBits := by
    simp only [magnitude] at h
    split at h
    · split at h
      · cases h
      · exact ⟨‹_›, ‹_›⟩
    · split at h <;> cases h
  obtain ⟨hexponent, hmantissa⟩ := isNoNumber_iff.mp hbits
  have hcanonical := x.toModel.valid.eq_packedNaN hexponent hmantissa
  refine eq_of_toBits (UInt64.toBitVec_inj.mp (hcanonical.trans ?_))
  decide

theorem ofBits_toBits (x : Float) : Float.ofBits x.toBits = x := by
  cases h : magnitude x with
  | notANumber =>
    rw [eq_notANumber_of_magnitude h]
    decide +kernel
  | infinite =>
    rw [eq_infinity_of_magnitude h]
    cases isNegative x <;> decide +kernel
  | finite units exponent =>
    rcases Nat.eq_zero_or_pos units with rfl | hpos
    · rw [eq_zero_of_magnitude h]
      cases isNegative x <;> decide +kernel
    · rw [eq_double_of_magnitude h hpos]
      have hunpack := (isDouble_of_magnitude h hpos).unpack_double (signOf x)
      exact congrArg (fun u => Float.ofModel (.pack u)) hunpack

/-- A word that stands for a number is that of the double that it is read as. -/
theorem toBits_ofBits {w : UInt64} (h : ¬ IsNoNumber w) : (Float.ofBits w).toBits = w := by
  have hvalid : Format.binary64.Valid w.toBitVec :=
    ⟨fun hexponent hmantissa => absurd (isNoNumber_iff.mpr ⟨hexponent, hmantissa⟩) h⟩
  exact congrArg Float.toBits (ofBits_toBits (.ofModel ⟨w, hvalid⟩))

theorem ofBits_of_isNoNumber {w : UInt64} (h : IsNoNumber w) : Float.ofBits w = notANumber := by
  obtain ⟨hexponent, hmantissa⟩ := isNoNumber_iff.mp h
  have hunpack : UnpackedFloat.unpack Format.binary64 w.toBitVec = .notANumber := by
    simp only [UnpackedFloat.unpack]
    rw [if_pos hexponent, if_neg hmantissa]
  change Float.ofModel (.pack (UnpackedFloat.unpack Format.binary64 w.toBitVec)) = _
  rw [hunpack]
  exact eq_of_toBits (by decide)

end Magnitudes

end CodeTwins.Decimal
