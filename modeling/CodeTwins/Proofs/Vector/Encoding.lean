import CodeTwins.Proofs.Decimal.NotANumber
import CodeTwins.Proofs.Vector.Bytes
import Mathlib.Data.List.Forall2

/-!
# Vectors and byte strings

A vector has eight bytes for each number, and whole groups of eight bytes are those of a vector. So the two
correspond to each other, but for the many words that all stand for no number and are read as one value.
-/
namespace CodeTwins.Vec

open Decimal

section Vectors

variable {v : Vec Float} {bytes : List UInt8}

/-- Words that are read as one double: they are the same, or both stand for no number. -/
def SameDouble (w w' : UInt64) : Prop :=
  w = w' ∨ IsNoNumber w ∧ IsNoNumber w'

/-- Bytes that are read as one vector: they are those of words that are read as the same doubles. -/
def SameDoubles (bytes bytes' : List UInt8) : Prop :=
  ∃ ws ws', bytes = encodeWords ws ∧ bytes' = encodeWords ws' ∧ List.Forall₂ SameDouble ws ws'

private theorem sameDouble_toBits_ofBits (w : UInt64) : SameDouble (Float.ofBits w).toBits w := by
  by_cases h : IsNoNumber w
  · rw [ofBits_of_isNoNumber h]
    exact .inr ⟨by decide, h⟩
  · exact .inl (toBits_ofBits h)

private theorem decode_eq_some_iff :
    decode bytes = some v ↔ ∃ ws, bytes = encodeWords ws ∧ v = ws.map Float.ofBits := by
  rw [decode, Option.map_eq_some_iff]
  refine exists_congr fun ws => and_congr ?_ eq_comm
  constructor
  · intro h
    exact (encodeWords_of_decodeWords h).symm
  · intro h
    rw [h, decodeWords_encodeWords]

/-- What is written of a vector that was read differs at most in words that stand for no number. -/
theorem sameDoubles_encode (h : decode bytes = some v) : SameDoubles (encode v) bytes := by
  obtain ⟨ws, rfl, rfl⟩ := decode_eq_some_iff.mp h
  refine ⟨_, ws, rfl, rfl, ?_⟩
  rw [List.map_map, List.forall₂_map_left_iff, List.forall₂_same]
  intro w hw
  exact sameDouble_toBits_ofBits w

private theorem encode_of_decode (h : decode bytes = some v) (hv : ∀ x ∈ v, x.isNaN = false) :
    encode v = bytes := by
  obtain ⟨ws, rfl, rfl⟩ := decode_eq_some_iff.mp h
  have hwords : (ws.map Float.ofBits).map Float.toBits = ws := by
    rw [List.map_map]
    refine (List.map_congr_left fun w hw => ?_).trans (List.map_id ws)
    apply toBits_ofBits
    intro hnone
    have hnumber := hv _ (List.mem_map_of_mem hw)
    rw [ofBits_of_isNoNumber hnone, isNaN_notANumber] at hnumber
    cases hnumber
  rw [encode, hwords]

private theorem isSome_decode_iff (bytes : List UInt8) :
    (decode bytes).isSome = true ↔ 8 ∣ bytes.length := by
  rw [decode, Option.isSome_map, isSome_decodeWords_iff]

private theorem length_encode (v : Vec Float) : (encode v).length = 8 * v.length := by
  rw [encode, length_encodeWords, List.length_map]

private theorem getElem?_encode {i : Nat} {x : Float} (hx : v[i]? = some x) {j : Nat} (hj : j < 8) :
    (encode v)[8 * i + j]? = some (UInt8.ofNat (x.toBits.toNat / 256 ^ j)) := by
  apply getElem?_encodeWords _ hj
  rw [List.getElem?_map, hx, Option.map_some]

end Vectors

/-- Vectors and byte strings correspond to each other: what is written is read again, and what is read is
written again. A number takes the eight bytes of its bits, the least significant first. Of words exactly
this holds, and of doubles but for the words that stand for no number. What is not made of groups of
eight bytes is not read. -/
theorem encoding_bijective :
    (∀ ws, decodeWords (encodeWords ws) = some ws) ∧
    (∀ bytes, 8 ∣ bytes.length → ∃ ws, decodeWords bytes = some ws ∧ encodeWords ws = bytes) ∧
    (∀ v : Vec Float, decode (encode v) = some v ∧ (encode v).length = 8 * v.length ∧
      ∀ (i : Nat) x, v[i]? = some x → ∀ j < 8,
        (encode v)[8 * i + j]? = some (UInt8.ofNat (x.toBits.toNat / 256 ^ j))) ∧
    (∀ bytes, 8 ∣ bytes.length → ∃ v, decode bytes = some v ∧ SameDoubles (encode v) bytes ∧
      ((∀ x ∈ v, x.isNaN = false) → encode v = bytes)) ∧
    ∀ bytes, ¬ 8 ∣ bytes.length → decode bytes = none := by
  refine ⟨decodeWords_encodeWords, ?_, ?_, ?_, ?_⟩
  · intro bytes hlength
    obtain ⟨ws, hws⟩ := Option.isSome_iff_exists.mp ((isSome_decodeWords_iff bytes).mpr hlength)
    exact ⟨ws, hws, encodeWords_of_decodeWords hws⟩
  · intro v
    exact ⟨decode_encode v, length_encode v, fun i x hx j hj => getElem?_encode hx hj⟩
  · intro bytes hlength
    obtain ⟨v, hv⟩ := Option.isSome_iff_exists.mp ((isSome_decode_iff bytes).mpr hlength)
    exact ⟨v, hv, sameDoubles_encode hv, encode_of_decode hv⟩
  · intro bytes hlength
    exact Option.not_isSome_iff_eq_none.mp ((isSome_decode_iff bytes).not.mpr hlength)

/-- The number one, a word that stands for no number, and half a word. -/
theorem encoding_bijective_one :
    let one : List UInt8 := [0, 0, 0, 0, 0, 0, 240, 63]
    let odd : List UInt8 := [1, 0, 0, 0, 0, 0, 240, 255]
    let v : Vec Float := [Float.ofBits 0x3FF0000000000000]
    8 ∣ (one ++ odd).length ∧
      (∃ ws, decodeWords (one ++ odd) = some ws ∧ encodeWords ws = one ++ odd) ∧
      (∃ v, decode (one ++ odd) = some v ∧ SameDoubles (encode v) (one ++ odd)) ∧
      v[0]? = some (Float.ofBits 0x3FF0000000000000) ∧ (encode v)[8 * 0 + 7]? = some 63 ∧
      8 ∣ one.length ∧ (∀ x ∈ v, x.isNaN = false) ∧ decode one = some v ∧ encode v = one ∧
      ¬ 8 ∣ [(0 : UInt8), 0, 240, 63].length ∧ decode [0, 0, 240, 63] = none := by
  intro one odd v
  obtain ⟨-, hwords, hvectors, hbytes, hpartial⟩ := encoding_bijective
  have hlength : 8 ∣ (one ++ odd).length := by decide
  have hone : 8 ∣ one.length := by decide
  have hhalf : ¬ 8 ∣ [(0 : UInt8), 0, 240, 63].length := by decide
  have hplace : v[0]? = some (Float.ofBits 0x3FF0000000000000) := rfl
  have hnumber : ∀ x ∈ v, x.isNaN = false := by
    simp only [v, List.forall_mem_singleton]
    decide +kernel
  have hdecode : decode one = some v := by rfl
  have hlast : UInt8.ofNat ((Float.ofBits 0x3FF0000000000000).toBits.toNat / 256 ^ 7) = 63 := by
    decide +kernel
  obtain ⟨w, hw, hsame, -⟩ := hbytes (one ++ odd) hlength
  obtain ⟨u, hu, -, hwritten⟩ := hbytes one hone
  obtain rfl : u = v := Option.some.inj (hu.symm.trans hdecode)
  refine ⟨hlength, hwords _ hlength, ⟨w, hw, hsame⟩, hplace, ?_, hone, hnumber, hdecode,
    hwritten hnumber, hhalf, hpartial _ hhalf⟩
  rw [(hvectors v).2.2 0 _ hplace 7 (by decide), hlast]

end CodeTwins.Vec
