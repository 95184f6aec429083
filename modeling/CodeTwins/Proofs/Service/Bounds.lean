import CodeTwins.Client.Calls
import CodeTwins.Proofs.Decimal.Layout
import CodeTwins.Proofs.Element.Encode
import CodeTwins.Proofs.Json.Reader
import CodeTwins.Proofs.Numeral
import CodeTwins.Service.Schema

/-!
# Numbers in queries

A number that a client writes into a query is the number that the service reads there.
-/
namespace CodeTwins

open Decimal

/-- Whether a character of ASCII can be seen. -/
def isGraphic (c : Char) : Bool :=
  32 < c.toNat && c.toNat < 127

private theorem isBlank_of_isGraphic {c : Char} (h : isGraphic c = true) :
    Numeral.isBlank c = false := by
  simp only [isGraphic, Bool.and_eq_true, decide_eq_true_iff] at h
  obtain ⟨hlow, hhigh⟩ := h
  have hspace : c ≠ ' ' := by
    rintro rfl
    exact absurd hlow (by decide)
  simp only [Numeral.isBlank, hhigh, if_true, beq_eq_false_iff_ne.mpr hspace, Bool.false_or,
    Bool.and_eq_false_iff, decide_eq_false_iff_not]
  omega

private theorem isGraphic_of_isDigit {c : Char} (h : c.isDigit = true) : isGraphic c = true := by
  have := Numeral.toNat_of_isDigit h
  simp only [isGraphic, Bool.and_eq_true, decide_eq_true_iff]
  omega

private theorem isGraphic_exponentText (e : Int) : ∀ c ∈ exponentText e, isGraphic c = true := by
  obtain ⟨ds, htext, -, hdigits, -⟩ := exists_exponentText e
  rw [htext]
  refine List.forall_mem_cons.mpr ⟨?_, fun c hc => isGraphic_of_isDigit (hdigits c hc)⟩
  split <;> rfl

private theorem isGraphic_chars {p : Parts} (h : p.Fits) : ∀ c ∈ p.chars, isGraphic c = true := by
  have hwhole : ∀ c ∈ p.whole, isGraphic c = true := fun c hc =>
    isGraphic_of_isDigit (h.isDigit_whole c hc)
  have hfraction : ∀ c ∈ if p.fraction = [] then [] else '.' :: p.fraction, isGraphic c = true := by
    split
    · exact nofun
    · exact List.forall_mem_cons.mpr ⟨rfl, fun c hc => isGraphic_of_isDigit (h.fraction c hc)⟩
  have hexponent : ∀ c ∈ p.exponentChars, isGraphic c = true := by
    unfold Parts.exponentChars
    split
    · exact nofun
    · exact List.forall_mem_cons.mpr ⟨rfl, isGraphic_exponentText _⟩
  exact List.forall_mem_append.mpr ⟨List.forall_mem_append.mpr ⟨hwhole, hfraction⟩, hexponent⟩

private theorem isGraphic_text (x : Float) : ∀ c ∈ (text x).toList, isGraphic c = true := by
  cases h : magnitude x with
  | notANumber =>
    simp only [text, h, String.toList_ofList]
    cases isNegative x <;> exact List.all_eq_true.mp rfl
  | infinite =>
    simp only [text, h, String.toList_ofList]
    cases isNegative x <;> exact List.all_eq_true.mp rfl
  | finite units exponent =>
    obtain ⟨p, hfits, -, htext⟩ := exists_parts_text h
    rw [htext]
    split
    · exact List.forall_mem_cons.mpr ⟨rfl, isGraphic_chars hfits⟩
    · exact isGraphic_chars hfits

/-- Nothing is trimmed off a text that can be seen. -/
theorem trim_of_isGraphic {cs : List Char} (h : ∀ c ∈ cs, isGraphic c = true) :
    Text.trimEnd Numeral.isBlank (Text.trimStart Numeral.isBlank cs) = cs := by
  have hkept := Text.trim_between (p := Numeral.isBlank) (List.forall_mem_nil _)
    (fun c hc => isBlank_of_isGraphic (h c hc)) (List.forall_mem_nil _)
  rwa [List.nil_append, List.append_nil] at hkept

private theorem plainDigit_of_isDigit {c : Char} (h : c.isDigit = true) :
    Numeral.plainDigit c = c := by
  obtain ⟨hlow, hhigh⟩ := Numeral.toNat_of_isDigit h
  have hvalue : Unicode.digitValue? c = some (c.toNat - 48) := by
    have hzero : (48 ≤ c.toNat && c.toNat < 58) = true := by
      simp only [Bool.and_eq_true, decide_eq_true_iff]
      omega
    simp [Unicode.digitValue?, Unicode.zeros, hzero]
  have hsum : 48 + (c.toNat - 48) = c.toNat := by omega
  simp only [Numeral.plainDigit, hvalue, hsum, Char.ofNat_toNat]

private theorem joinDigits_of_isDigit {before : Char} (hbefore : before ≠ '_') {ds : List Char}
    (h : ∀ c ∈ ds, c.isDigit = true) : Numeral.joinDigits before ds = some ds :=
  Numeral.joinDigits_of_notMem hbefore fun hmem => absurd (h _ hmem) (by decide)

section Digits

variable {n : Nat}

private theorem isDigit_toDigits : ∀ c ∈ Nat.toDigits 10 n, c.isDigit = true := fun _ hc =>
  Nat.isDigit_of_mem_toDigits (by decide) (by decide) hc

private theorem length_toDigits_le (hn : n < 10 ^ Numeral.maxDigits) :
    (Nat.toDigits 10 n).length ≤ Numeral.maxDigits :=
  (Nat.length_toDigits_le_iff (by decide) (by decide)).mpr hn

private theorem int?_toDigits (hn : n < 10 ^ Numeral.maxDigits) :
    Numeral.int? (String.ofList (Nat.toDigits 10 n)) = some n := by
  have hdigits : ∀ c ∈ Nat.toDigits 10 n, c.isDigit = true := isDigit_toDigits
  have hnormal : Numeral.normalize (String.ofList (Nat.toDigits 10 n)) = Nat.toDigits 10 n := by
    have htrim := trim_of_isGraphic fun c hc => isGraphic_of_isDigit (hdigits c hc)
    rw [Text.trimEnd, Text.trimStart] at htrim
    rw [Numeral.normalize, String.toList_ofList, htrim]
    exact List.map_congr_left (fun c hc => plainDigit_of_isDigit (hdigits c hc)) |>.trans
      (List.map_id _)
  have hsign : Numeral.sign (Nat.toDigits 10 n) = (false, Nat.toDigits 10 n) := by
    unfold Numeral.sign
    split
    case h_1 heq => exact absurd (hdigits '-' (heq ▸ List.mem_cons_self)) (by decide)
    case h_2 heq => exact absurd (hdigits '+' (heq ▸ List.mem_cons_self)) (by decide)
    case h_3 => rfl
  have hnatural : Numeral.natural? (Nat.toDigits 10 n) = some n := by
    have hall : (Nat.toDigits 10 n).all Char.isDigit = true := List.all_eq_true.mpr hdigits
    simp [Numeral.natural?, Nat.toDigits_ne_nil, hall, natural_toDigits]
  have hjoin : Numeral.joinDigits ' ' (Nat.toDigits 10 n) = some (Nat.toDigits 10 n) :=
    joinDigits_of_isDigit (by decide) hdigits
  have hshort : ¬ Numeral.maxDigits < (Nat.toDigits 10 n).length :=
    Nat.not_lt.mpr (length_toDigits_le hn)
  simp [Numeral.int?, hnormal, hsign, hjoin, hshort, hnatural]

private theorem toString_natCast (n : Nat) :
    toString (n : Int) = String.ofList (Nat.toDigits 10 n) := by
  rw [← String.toList_inj, Json.toList_toString, if_neg (Int.not_lt.mpr (Int.natCast_nonneg n)),
    String.toList_ofList, Int.natAbs_natCast]

/-- An integer that is not too long is read as it is written. -/
theorem int?_toString {n : Int} (hpos : 0 ≤ n) (hn : n < 10 ^ Numeral.maxDigits) :
    Numeral.int? (toString n) = some n := by
  obtain ⟨m, rfl⟩ := Int.eq_ofNat_of_zero_le hpos
  rw [toString_natCast]
  exact int?_toDigits (by exact_mod_cast hn)

end Digits

namespace Service

private theorem numberOfText_of_isGraphic {s : String} (hs : ∀ c ∈ s.toList, isGraphic c = true)
    {x : Float} (hx : Numeral.decimal? s.toList = some x) : numberOfText s = .ok x := by
  simp only [numberOfText, trim_of_isGraphic hs, hx]

private theorem integerOfText_toDigits {n : Nat} (hn : n < 10 ^ Numeral.maxDigits) :
    integerOfText (String.ofList (Nat.toDigits 10 n)) = .ok n := by
  have hdigits : ∀ c ∈ Nat.toDigits 10 n, c.isDigit = true := isDigit_toDigits
  have hpoint : (Nat.toDigits 10 n ++ []).dropWhile (· ≠ '.') = [] := by
    refine List.dropWhile_append_of_pos fun c hc => decide_eq_true ?_
    rintro rfl
    exact absurd (hdigits _ hc) (by decide)
  rw [List.append_nil] at hpoint
  have hparts : (Nat.toDigits 10 n).all isIntegerPart = true := by
    refine List.all_eq_true.mpr fun c hc => ?_
    simp [isIntegerPart, hdigits c hc]
  have hshort : ¬ 4300 < (Nat.toDigits 10 n).length := Nat.not_lt.mpr (length_toDigits_le hn)
  simp only [integerOfText, String.toList_ofList, hshort, if_false,
    trim_of_isGraphic fun c hc => isGraphic_of_isDigit (hdigits c hc), hpoint, hparts, if_true,
    int?_toDigits hn]
  rfl

private theorem integerOfText_toString {n : Int} (hpos : 0 ≤ n) (hn : n < 10 ^ Numeral.maxDigits) :
    integerOfText (toString n) = .ok n := by
  obtain ⟨m, rfl⟩ := Int.eq_ofNat_of_zero_le hpos
  rw [toString_natCast]
  exact integerOfText_toDigits (by exact_mod_cast hn)

theorem exists_numberText {threshold : Number} (h : threshold.isWithinUnit = true) :
    ∃ text, Demand.numberText threshold = .ok text ∧
      numberOfText text = .ok threshold.toFloat := by
  cases threshold with
  | real x => exact ⟨_, rfl, numberOfText_of_isGraphic (isGraphic_text x) (decimal?_text x)⟩
  | whole n =>
    simp only [Number.isWithinUnit, Bool.and_eq_true, decide_eq_true_iff] at h
    obtain rfl | rfl : n = 0 ∨ n = 1 := by omega
    · exact ⟨"0", by decide +kernel,
        numberOfText_of_isGraphic (List.all_eq_true.mp rfl) (by decide +kernel)⟩
    · exact ⟨"1", by decide +kernel,
        numberOfText_of_isGraphic (List.all_eq_true.mp rfl) (by decide +kernel)⟩

/-- What a client asks for within bounds, the service looks for within the same bounds. -/
theorem bounds_boundFields {threshold : Number} (hthreshold : threshold.isWithinUnit = true)
    {limit : Int} (hpos : 0 ≤ limit) (hlimit : limit < 10 ^ Numeral.maxDigits) :
    ∃ fields, Demand.boundFields threshold limit = .ok fields ∧
      bounds fields = .ok (threshold.toFloat, limit) := by
  obtain ⟨text, htext, hnumber⟩ := exists_numberText hthreshold
  refine ⟨[("threshold", text), ("limit", toString limit)], ?_, ?_⟩
  · have hshort : Numeral.IsShort limit := (Numeral.isShort_iff_lt hpos).mpr hlimit
    rw [Demand.boundFields, htext, Json.intText_of_isShort hshort]
    rfl
  · have hfirst : queryValue? [("threshold", text), ("limit", toString limit)] "threshold" =
        some text := rfl
    have hsecond : queryValue? [("threshold", text), ("limit", toString limit)] "limit" =
        some (toString limit) := rfl
    simp only [bounds, queryField, hfirst, hsecond, hnumber, integerOfText_toString hpos hlimit]
    rfl

end Service

end CodeTwins
