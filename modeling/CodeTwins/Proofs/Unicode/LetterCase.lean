import CodeTwins.Language
import Mathlib.Data.List.TakeWhile

/-!
# Lower case in spite of capitals and dots

The lower case of a text may depend on what stands around a letter. It is the same for texts that differ
only in the case of ASCII letters, and dots before a text do not change it: they stand inside a word
without deciding its case. So an extension is looked up in one form, in whatever case it is written and
with any dots before it.
-/
namespace CodeTwins

namespace Unicode

variable {cs before dots : List Char}

/-- What does not tell capitals of ASCII from their lower case is not changed by it. -/
theorem apply_toLower {β : Type} {f : Char → β}
    (hf : ∀ n < 26, f (Char.ofNat (97 + n)) = f (Char.ofNat (65 + n))) (c : Char) :
    f c.toLower = f c := by
  by_cases hcapital : 65 ≤ c.toNat ∧ c.toNat ≤ 90
  · obtain ⟨n, hn, hc⟩ : ∃ n < 26, c.toNat = 65 + n := ⟨c.toNat - 65, by omega, by omega⟩
    obtain rfl : c = Char.ofNat (65 + n) := by rw [← hc, Char.ofNat_toNat]
    have hlower : ∀ n < 26, (Char.ofNat (65 + n)).toLower = Char.ofNat (97 + n) := by decide
    rw [hlower n hn, hf n hn]
  · have hsame : c.toLower = c := dif_neg hcapital
    rw [hsame]

private theorem caseIgnorable_toLower (c : Char) :
    inRanges caseIgnorableRanges c.toLower = inRanges caseIgnorableRanges c :=
  apply_toLower (by decide +kernel) c

private theorem cased_toLower (c : Char) : inRanges casedRanges c.toLower = inRanges casedRanges c :=
  apply_toLower (by decide +kernel) c

private theorem lowerChar_toLower (c : Char) : lowerChar c.toLower = lowerChar c :=
  apply_toLower (by decide +kernel) c

private theorem toLower_beq_sigma (c : Char) : (c.toLower == 'Σ') = (c == 'Σ') :=
  apply_toLower (f := (· == 'Σ')) (by decide) c

private theorem toLower_beq_dottedI (c : Char) : (c.toLower == 'İ') = (c == 'İ') :=
  apply_toLower (f := (· == 'İ')) (by decide) c

private theorem nearCased_map_toLower (cs : List Char) :
    nearCased (cs.map Char.toLower) = nearCased cs := by
  have hignorable : inRanges caseIgnorableRanges ∘ Char.toLower = inRanges caseIgnorableRanges :=
    funext caseIgnorable_toLower
  rw [nearCased, nearCased, List.dropWhile_map, hignorable]
  cases cs.dropWhile (inRanges caseIgnorableRanges) with
  | nil => rfl
  | cons c _ => exact cased_toLower c

/-- Nothing changes if all ASCII letters of a text, and of what stands before it, are lower case. -/
theorem lowerAfter_map_toLower (before cs : List Char) :
    lowerAfter (before.map Char.toLower) (cs.map Char.toLower) = lowerAfter before cs := by
  induction cs generalizing before with
  | nil => rfl
  | cons c cs ih =>
    have hrest := ih (c :: before)
    rw [List.map_cons] at hrest
    rw [List.map_cons, lowerAfter, lowerAfter, hrest, nearCased_map_toLower, nearCased_map_toLower,
      toLower_beq_sigma, toLower_beq_dottedI, lowerChar_toLower]

private theorem nearCased_append_dots (hdots : ∀ c ∈ dots, c = '.') :
    nearCased (before ++ dots) = nearCased before := by
  have hnone : dots.dropWhile (inRanges caseIgnorableRanges) = [] := by
    refine List.dropWhile_eq_nil_iff.mpr fun c hc => ?_
    rw [hdots c hc]
    decide
  rw [nearCased, nearCased, List.dropWhile_append, hnone]
  cases before.dropWhile (inRanges caseIgnorableRanges) <;> rfl

/-- Dots at the start of all that stands before a text do not count. -/
theorem lowerAfter_append_dots (hdots : ∀ c ∈ dots, c = '.') (before cs : List Char) :
    lowerAfter (before ++ dots) cs = lowerAfter before cs := by
  induction cs generalizing before with
  | nil => rfl
  | cons c cs ih =>
    have hrest := ih (c :: before)
    rw [List.cons_append] at hrest
    rw [lowerAfter, lowerAfter, hrest, nearCased_append_dots hdots]

private theorem lowerAfter_dots (hdots : ∀ c ∈ dots, c = '.') (before cs : List Char) :
    lowerAfter before (dots ++ cs) = dots ++ lowerAfter (dots.reverse ++ before) cs := by
  induction dots generalizing before with
  | nil => rfl
  | cons c dots ih =>
    obtain ⟨rfl, hrest⟩ := List.forall_mem_cons.mp hdots
    have hdot : lowerChar '.' = '.' := by decide
    rw [List.cons_append, lowerAfter, ih hrest]
    simp [hdot]

end Unicode

/-- An extension without the dots before it. -/
def bareExtension (ext : String) : List Char :=
  ext.toList.dropWhile (· == '.')

/-- Two ways to write an extension, which differ only in the case of ASCII letters and in the dots before
it. -/
def SameExtension (ext ext' : String) : Prop :=
  (bareExtension ext).map Char.toLower = (bareExtension ext').map Char.toLower

instance (ext ext' : String) : Decidable (SameExtension ext ext') :=
  inferInstanceAs (Decidable (_ = _))

private theorem normalExtension_eq (ext : String) :
    normalExtension ext = String.ofList (Text.trimStart (· == '.')
      (Unicode.lowerAfter [] (bareExtension ext))) := by
  have hdots : ∀ c ∈ ext.toList.takeWhile (· == '.'), c = '.' := by
    intro c hc
    simpa using List.mem_takeWhile_imp hc
  have hlower : Unicode.lowerAfter [] ext.toList =
      ext.toList.takeWhile (· == '.') ++ Unicode.lowerAfter [] (bareExtension ext) := by
    have hreverse : ∀ c ∈ (ext.toList.takeWhile (· == '.')).reverse, c = '.' :=
      fun c hc => hdots c (List.mem_reverse.mp hc)
    have hsplit := Unicode.lowerAfter_dots hdots [] (bareExtension ext)
    rw [bareExtension, List.takeWhile_append_dropWhile, ← bareExtension, List.append_nil] at hsplit
    rw [hsplit, ← Unicode.lowerAfter_append_dots hreverse [] (bareExtension ext), List.nil_append]
  have htrim : ∀ c ∈ ext.toList.takeWhile (· == '.'), (c == '.') = true :=
    fun c hc => beq_iff_eq.mpr (hdots c hc)
  rw [normalExtension, Unicode.lower, String.toList_ofList, hlower, Text.trimStart,
    List.dropWhile_append_of_pos htrim, Text.trimStart]

theorem normalExtension_eq_of_same {ext ext' : String} (h : SameExtension ext ext') :
    normalExtension ext = normalExtension ext' := by
  have hlower : Unicode.lowerAfter [] (bareExtension ext) =
      Unicode.lowerAfter [] (bareExtension ext') := by
    have hleft := Unicode.lowerAfter_map_toLower [] (bareExtension ext)
    have hright := Unicode.lowerAfter_map_toLower [] (bareExtension ext')
    rw [h] at hleft
    exact hleft.symm.trans hright
  rw [normalExtension_eq, normalExtension_eq, hlower]

end CodeTwins
