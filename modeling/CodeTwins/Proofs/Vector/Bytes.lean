import CodeTwins.Proofs.Decimal.Bits
import CodeTwins.Vector.Bytes
import Mathlib.Data.UInt

/-!
# Vectors read back

The bytes of a word are its digits to the base 256, the least significant first. So words are what their
bytes stand for, bytes are those of the words they stand for, and a vector is what its bytes stand for.
-/
namespace CodeTwins.Vec

section Digits

/-- A byte of a word is one of its digits. -/
theorem toUInt8_shiftRight (w : UInt64) {k : UInt64} {j : Nat} (hk : (k.toBitVec % 64).toNat = 8 * j) :
    (w >>> k).toUInt8 = UInt8.ofNat (w.toNat / 256 ^ j) := by
  have hshift : (w >>> k).toNat = w.toNat / 256 ^ j := by
    have hpow : 256 ^ j = 2 ^ (8 * j) := by rw [Nat.pow_mul]
    rw [hpow, ← hk, ← Nat.shiftRight_eq_div_pow]
    rfl
  apply UInt8.toNat_inj.mp
  rw [UInt64.toNat_toUInt8, hshift, UInt8.toNat_ofNat']

private theorem bytesOfWord_eq (w : UInt64) :
    bytesOfWord w = (List.range 8).map fun j => UInt8.ofNat (w.toNat / 256 ^ j) := by
  have hfirst : w.toUInt8 = UInt8.ofNat (w.toNat / 256 ^ 0) := by
    rw [Nat.pow_zero, Nat.div_one]
    rfl
  rw [bytesOfWord, hfirst, toUInt8_shiftRight w (k := 8) (j := 1) rfl,
    toUInt8_shiftRight w (k := 16) (j := 2) rfl, toUInt8_shiftRight w (k := 24) (j := 3) rfl,
    toUInt8_shiftRight w (k := 32) (j := 4) rfl, toUInt8_shiftRight w (k := 40) (j := 5) rfl,
    toUInt8_shiftRight w (k := 48) (j := 6) rfl, toUInt8_shiftRight w (k := 56) (j := 7) rfl]
  rfl

/-- A byte put before a word counts by its place. -/
theorem toNat_or_byte {w : UInt64} {n : Nat} (hw : w.toNat < 2 ^ n) (k : UInt64) (b : UInt8)
    (hk : k.toNat % 64 = n) (hn : n + 8 ≤ 64) :
    (w ||| b.toUInt64 <<< k).toNat = w.toNat + b.toNat * 2 ^ n ∧
      (w ||| b.toUInt64 <<< k).toNat < 2 ^ (n + 8) := by
  have hplace : 2 ^ n * 2 ^ 8 = 2 ^ (n + 8) := (Nat.pow_add 2 n 8).symm
  have hfits : 2 ^ (n + 8) ≤ 2 ^ 64 := Nat.pow_le_pow_right (by decide) hn
  have hb : b.toNat * 2 ^ n ≤ (2 ^ 8 - 1) * 2 ^ n :=
    Nat.mul_le_mul_right _ (Nat.le_sub_one_of_lt b.toNat_lt)
  have hsum : (w ||| b.toUInt64 <<< k).toNat = w.toNat + b.toNat * 2 ^ n := by
    rw [UInt64.toNat_or, UInt64.toNat_shiftLeft, hk, UInt8.toNat_toUInt64, Nat.shiftLeft_eq,
      Nat.mod_eq_of_lt (by omega), Nat.lor_comm, ← Nat.shiftLeft_eq,
      ← Nat.shiftLeft_add_eq_or_of_lt hw, Nat.shiftLeft_eq, Nat.add_comm]
  exact ⟨hsum, by omega⟩

private theorem toNat_wordOfBytes (b0 b1 b2 b3 b4 b5 b6 b7 : UInt8) :
    (wordOfBytes b0 b1 b2 b3 b4 b5 b6 b7).toNat = b0.toNat + b1.toNat * 2 ^ 8 + b2.toNat * 2 ^ 16 +
      b3.toNat * 2 ^ 24 + b4.toNat * 2 ^ 32 + b5.toNat * 2 ^ 40 + b6.toNat * 2 ^ 48 +
        b7.toNat * 2 ^ 56 := by
  have hlt0 : b0.toUInt64.toNat < 2 ^ 8 := b0.toNat_lt
  obtain ⟨h1, hlt1⟩ := toNat_or_byte hlt0 8 b1 rfl (by decide)
  obtain ⟨h2, hlt2⟩ := toNat_or_byte hlt1 16 b2 rfl (by decide)
  obtain ⟨h3, hlt3⟩ := toNat_or_byte hlt2 24 b3 rfl (by decide)
  obtain ⟨h4, hlt4⟩ := toNat_or_byte hlt3 32 b4 rfl (by decide)
  obtain ⟨h5, hlt5⟩ := toNat_or_byte hlt4 40 b5 rfl (by decide)
  obtain ⟨h6, hlt6⟩ := toNat_or_byte hlt5 48 b6 rfl (by decide)
  obtain ⟨h7, -⟩ := toNat_or_byte hlt6 56 b7 rfl (by decide)
  rw [wordOfBytes, h7, h6, h5, h4, h3, h2, h1]
  rfl

/-- The digits of a word make up the word. -/
theorem wordOfBytes_bytesOfWord (w : UInt64) :
    wordOfBytes w.toUInt8 (w >>> 8).toUInt8 (w >>> 16).toUInt8 (w >>> 24).toUInt8
      (w >>> 32).toUInt8 (w >>> 40).toUInt8 (w >>> 48).toUInt8 (w >>> 56).toUInt8 = w := by
  have hlt := w.toNat_lt
  have hdigits := bytesOfWord_eq w
  simp only [bytesOfWord, List.range, List.range.loop, List.map_cons, List.map_nil,
    List.cons.injEq, and_true] at hdigits
  obtain ⟨h0, h1, h2, h3, h4, h5, h6, h7⟩ := hdigits
  apply UInt64.toNat_inj.mp
  rw [toNat_wordOfBytes, h0, h1, h2, h3, h4, h5, h6, h7]
  simp only [UInt8.toNat_ofNat']
  omega

private theorem bytesOfWord_wordOfBytes (b0 b1 b2 b3 b4 b5 b6 b7 : UInt8) :
    bytesOfWord (wordOfBytes b0 b1 b2 b3 b4 b5 b6 b7) = [b0, b1, b2, b3, b4, b5, b6, b7] := by
  have hlt0 := b0.toNat_lt
  have hlt1 := b1.toNat_lt
  have hlt2 := b2.toNat_lt
  have hlt3 := b3.toNat_lt
  have hlt4 := b4.toNat_lt
  have hlt5 := b5.toNat_lt
  have hlt6 := b6.toNat_lt
  have hlt7 := b7.toNat_lt
  rw [bytesOfWord_eq, toNat_wordOfBytes]
  simp only [List.range, List.range.loop, List.map_cons, List.map_nil, List.cons.injEq, and_true,
    ← UInt8.toNat_inj, UInt8.toNat_ofNat']
  refine ⟨?_, ?_, ?_, ?_, ?_, ?_, ?_, ?_⟩ <;> omega

end Digits

section Words

private theorem encodeWords_cons (w : UInt64) (ws : List UInt64) :
    encodeWords (w :: ws) = bytesOfWord w ++ encodeWords ws :=
  List.flatMap_cons

theorem length_encodeWords (ws : List UInt64) : (encodeWords ws).length = 8 * ws.length := by
  induction ws with
  | nil => rfl
  | cons w ws ih =>
    rw [encodeWords_cons, List.length_append, ih, List.length_cons, Nat.mul_succ, Nat.add_comm]
    rfl

theorem getElem?_encodeWords {ws : List UInt64} {i : Nat} {w : UInt64} (hw : ws[i]? = some w)
    {j : Nat} (hj : j < 8) :
    (encodeWords ws)[8 * i + j]? = some (UInt8.ofNat (w.toNat / 256 ^ j)) := by
  induction ws generalizing i with
  | nil => simp at hw
  | cons first ws ih =>
    have hlength : (bytesOfWord first).length = 8 := rfl
    rw [encodeWords_cons]
    cases i with
    | zero =>
      obtain rfl : first = w := by simpa using hw
      rw [Nat.mul_zero, Nat.zero_add, List.getElem?_append_left (by omega), bytesOfWord_eq]
      simp [hj]
    | succ i =>
      have hplace : 8 * (i + 1) + j - 8 = 8 * i + j := by omega
      rw [List.getElem?_append_right (by omega), hlength, hplace]
      exact ih (by simpa using hw)

theorem decodeWords_encodeWords (ws : List UInt64) : decodeWords (encodeWords ws) = some ws := by
  induction ws with
  | nil => rfl
  | cons w ws ih =>
    rw [encodeWords_cons]
    simp only [bytesOfWord, List.cons_append, List.nil_append, decodeWords, ih,
      wordOfBytes_bytesOfWord, Option.map_some]

theorem encodeWords_of_decodeWords {bytes : List UInt8} {ws : List UInt64}
    (h : decodeWords bytes = some ws) : encodeWords ws = bytes := by
  fun_induction decodeWords bytes generalizing ws with
  | case1 =>
    cases h
    rfl
  | case2 b0 b1 b2 b3 b4 b5 b6 b7 rest ih =>
    obtain ⟨words, hwords, rfl⟩ := Option.map_eq_some_iff.mp h
    rw [encodeWords_cons, bytesOfWord_wordOfBytes, ih hwords]
    rfl
  | case3 => cases h

theorem isSome_decodeWords_iff (bytes : List UInt8) :
    (decodeWords bytes).isSome = true ↔ 8 ∣ bytes.length := by
  fun_induction decodeWords bytes with
  | case1 => simp
  | case2 b0 b1 b2 b3 b4 b5 b6 b7 rest ih =>
    rw [Option.isSome_map, ih]
    simp only [List.length_cons]
    omega
  | case3 bytes hnil hlong =>
    have hshort : bytes.length < 8 := by
      apply Nat.lt_of_not_le
      intro hle
      match bytes, hle with
      | b0 :: b1 :: b2 :: b3 :: b4 :: b5 :: b6 :: b7 :: rest, _ => exact hlong _ _ _ _ _ _ _ _ _ rfl
    have hsome : bytes.length ≠ 0 := fun h => hnil (List.length_eq_zero_iff.mp h)
    simp only [Option.isSome_none, Bool.false_eq_true, false_iff]
    omega

end Words

/-- The bytes of a vector are read as the vector. -/
theorem decode_encode (v : Vec Float) : decode (encode v) = some v := by
  have hnumbers : (v.map Float.toBits).map Float.ofBits = v := by
    rw [List.map_map]
    exact List.map_id'' Decimal.ofBits_toBits v
  rw [decode, encode, decodeWords_encodeWords, Option.map_some, hnumbers]

end CodeTwins.Vec
