import CodeTwins.Text.Utf8
import Mathlib.Algebra.Group.Nat.Defs
import Mathlib.Data.List.Basic

/-!
# Text from its bytes

A text that has been written as bytes is read as it was, and no other bytes are read as that text. The
bytes of each character are one piece.
-/
namespace CodeTwins.Utf8

open String (utf8EncodeChar)

section Bytes

variable {m n : Nat}

private theorem lt_ofNat_iff (hm : m < 256) (hn : n < 256) :
    UInt8.ofNat m < UInt8.ofNat n ↔ m < n := by
  rw [UInt8.lt_iff_toNat_lt, UInt8.toNat_ofNat_of_lt' hm, UInt8.toNat_ofNat_of_lt' hn]

private theorem le_ofNat_iff (hm : m < 256) (hn : n < 256) :
    UInt8.ofNat m ≤ UInt8.ofNat n ↔ m ≤ n := by
  rw [UInt8.le_iff_toNat_le, UInt8.toNat_ofNat_of_lt' hm, UInt8.toNat_ofNat_of_lt' hn]

private theorem ofNat_inj (hm : m < 256) (hn : n < 256) : UInt8.ofNat m = UInt8.ofNat n ↔ m = n := by
  rw [← UInt8.toNat_inj, UInt8.toNat_ofNat_of_lt' hm, UInt8.toNat_ofNat_of_lt' hn]

private theorem sizeOf_ofNat (hn : n < 256) :
    sizeOf (UInt8.ofNat n) =
      if n < 0x80 then 1 else if n < 0xC2 then 0 else if n < 0xE0 then 2
      else if n < 0xF0 then 3 else if n < 0xF5 then 4 else 0 := by
  unfold sizeOf
  simp only [← lt_ofNat_iff hn (show 0x80 < 256 by decide),
    ← lt_ofNat_iff hn (show 0xC2 < 256 by decide), ← lt_ofNat_iff hn (show 0xE0 < 256 by decide),
    ← lt_ofNat_iff hn (show 0xF0 < 256 by decide), ← lt_ofNat_iff hn (show 0xF5 < 256 by decide)]
  rfl

/-- A byte that goes on with a character, for six bits of it. -/
def tail (n : Nat) : UInt8 :=
  UInt8.ofNat (n % 64 + 0x80)

private theorem continues_tail (n : Nat) : continues (tail n) = true := by
  have hn : n % 64 + 0x80 < 256 := by omega
  have hlow : UInt8.ofNat 0x80 ≤ tail n := (le_ofNat_iff (by decide) hn).mpr (by omega)
  have hhigh : tail n < UInt8.ofNat 0xC0 := (lt_ofNat_iff hn (by decide)).mpr (by omega)
  exact Bool.and_eq_true_iff.mpr ⟨decide_eq_true hlow, decide_eq_true hhigh⟩

private theorem toNat_tail (n : Nat) : (tail n).toNat % 64 = n % 64 := by
  have hn : n % 64 + 0x80 < 256 := by omega
  rw [tail, UInt8.toNat_ofNat_of_lt' hn]
  omega

private theorem continued_tail (taken value more n : Nat) (bytes : List UInt8) :
    continued taken value (more + 1) (tail n :: bytes) =
      continued (taken + 1) (value * 64 + n % 64) more bytes := by
  rw [continued, if_pos (continues_tail n), toNat_tail]

private theorem tail_congr (h : m % 64 = n % 64) : tail m = tail n := by
  rw [tail, h, tail]

/-- The bytes that go on with a character are those for six bits. -/
theorem exists_tail_of_continues {b : UInt8} (h : continues b = true) : ∃ k < 64, b = tail k := by
  obtain ⟨hlow, hhigh⟩ := Bool.and_eq_true_iff.mp h
  have hlow' : 0x80 ≤ b.toNat := UInt8.le_iff_toNat_le.mp (of_decide_eq_true hlow)
  have hhigh' : b.toNat < 0xC0 := UInt8.lt_iff_toNat_lt.mp (of_decide_eq_true hhigh)
  refine ⟨b.toNat - 0x80, by omega, ?_⟩
  have hbyte : (b.toNat - 0x80) % 64 + 0x80 = b.toNat := by omega
  rw [tail, hbyte, UInt8.ofNat_toNat]

/-- Another byte of a character has been read. -/
theorem exists_tail_of_continued {taken value more length : Nat} {c : Char} {bytes : List UInt8}
    (h : continued taken value (more + 1) bytes = .character c length) :
    ∃ k < 64, ∃ rest, bytes = tail k :: rest ∧
      continued (taken + 1) (value * 64 + k) more rest = .character c length := by
  cases bytes with
  | nil => cases h
  | cons b rest =>
    rw [continued] at h
    split at h
    case isTrue hb =>
      obtain ⟨k, hk, rfl⟩ := exists_tail_of_continues hb
      rw [toNat_tail, Nat.mod_eq_of_lt hk] at h
      exact ⟨k, hk, rest, rfl, h⟩
    case isFalse => cases h

/-- Which bytes may follow a first one, by the bounds that it sets them. -/
theorem mayFollow_tail (hm : m < 256) (n : Nat) :
    mayFollow (UInt8.ofNat m) (tail n) =
      if m = 0xE0 then decide (0xA0 ≤ n % 64 + 0x80) else if m = 0xED then decide (n % 64 + 0x80 < 0xA0)
      else if m = 0xF0 then decide (0x90 ≤ n % 64 + 0x80)
      else if m = 0xF4 then decide (n % 64 + 0x80 < 0x90) else true := by
  have hn : n % 64 + 0x80 < 256 := by omega
  rw [mayFollow, continues_tail, Bool.true_and]
  simp only [← ofNat_inj hm (show 0xE0 < 256 by decide), ← ofNat_inj hm (show 0xED < 256 by decide),
    ← ofNat_inj hm (show 0xF0 < 256 by decide), ← ofNat_inj hm (show 0xF4 < 256 by decide),
    ← le_ofNat_iff (show 0xA0 < 256 by decide) hn, ← lt_ofNat_iff hn (show 0xA0 < 256 by decide),
    ← le_ofNat_iff (show 0x90 < 256 by decide) hn, ← lt_ofNat_iff hn (show 0x90 < 256 by decide)]
  rfl

private theorem mayFollow_tail_iff (hm : m < 256) :
    mayFollow (UInt8.ofNat m) (tail n) = true ↔
      (m = 0xE0 → 0x20 ≤ n % 64) ∧ (m = 0xED → n % 64 < 0x20) ∧
        (m = 0xF0 → 0x10 ≤ n % 64) ∧ (m = 0xF4 → n % 64 < 0x10) := by
  rw [mayFollow_tail hm]
  split_ifs
  all_goals
    simp only [decide_eq_true_iff, true_iff]
    omega

end Bytes

section Characters

/-- The bytes of a character, the first of them apart. -/
theorem utf8EncodeChar_eq (c : Char) :
    utf8EncodeChar c =
      if c.toNat ≤ 0x7F then [UInt8.ofNat c.toNat]
      else if c.toNat ≤ 0x7FF then [UInt8.ofNat (c.toNat / 64 % 32 + 0xC0), tail c.toNat]
      else if c.toNat ≤ 0xFFFF then
        [UInt8.ofNat (c.toNat / 4096 % 16 + 0xE0), tail (c.toNat / 64), tail c.toNat]
      else [UInt8.ofNat (c.toNat / 262144 % 8 + 0xF0), tail (c.toNat / 4096), tail (c.toNat / 64),
        tail c.toNat] :=
  rfl

private theorem toNat_bounds (c : Char) : c.toNat < 0xD800 ∨ 0xDFFF < c.toNat ∧ c.toNat < 0x110000 :=
  c.valid

private theorem pieceAt_of_sizeOf_zero {first : UInt8} (h : sizeOf first = 0) (bytes : List UInt8) :
    pieceAt first bytes = .malformed 1 .badStart := by
  unfold pieceAt
  simp only [h, if_true]

private theorem pieceAt_of_sizeOf_one {first : UInt8} (h : sizeOf first = 1) (bytes : List UInt8) :
    pieceAt first bytes = .character (Char.ofNat first.toNat) 1 := by
  unfold pieceAt
  simp only [h]
  cases bytes <;> rfl

/-- What more than one byte stand for, the second of which may follow the first. -/
theorem pieceAt_of_mayFollow {m size n : Nat} (hm : m < 256)
    (hsize : sizeOf (UInt8.ofNat m) = size + 2)
    (hfollow : mayFollow (UInt8.ofNat m) (tail n) = true) (bytes : List UInt8) :
    pieceAt (UInt8.ofNat m) (tail n :: bytes) =
      continued 2 (m % 2 ^ (5 - size) * 64 + n % 64) size bytes := by
  have hlead : leadBits (UInt8.ofNat m) (size + 2) = m % 2 ^ (5 - size) := by
    rw [leadBits, if_neg (by omega), UInt8.toNat_ofNat_of_lt' hm, Nat.add_comm size 2,
      ← Nat.sub_sub]
    rfl
  unfold pieceAt
  simp only [hsize, hfollow, hlead, Bool.not_true, Bool.and_false, Nat.succ_ne_zero, if_false,
    Bool.false_eq_true]
  exact continued_tail 1 _ size n bytes

/-- The bytes of a character are a piece, which is that character. -/
theorem exists_pieceAt (c : Char) : ∃ first more, utf8EncodeChar c = first :: more ∧
    ∀ rest, pieceAt first (more ++ rest) = .character c (more.length + 1) := by
  rw [utf8EncodeChar_eq]
  have hbounds := toNat_bounds c
  have hchar : ∀ {value : Nat}, value = c.toNat → ∀ length : Nat,
      Piece.character (Char.ofNat value) length = .character c length := by
    rintro _ rfl length
    rw [Char.ofNat_toNat]
  split
  case isTrue h1 =>
    refine ⟨_, [], rfl, fun rest => ?_⟩
    have hsize : sizeOf (UInt8.ofNat c.toNat) = 1 := by
      rw [sizeOf_ofNat (by omega), if_pos (by omega)]
    have hvalue : (UInt8.ofNat c.toNat).toNat = c.toNat :=
      UInt8.toNat_ofNat_of_lt' (show c.toNat < 256 by omega)
    exact (pieceAt_of_sizeOf_one hsize rest).trans (hchar hvalue 1)
  split
  case isTrue h2 =>
    refine ⟨_, [tail _], rfl, fun rest => ?_⟩
    have hm : c.toNat / 64 % 32 + 0xC0 < 256 := by omega
    have hsize : sizeOf (UInt8.ofNat (c.toNat / 64 % 32 + 0xC0)) = 0 + 2 := by
      rw [sizeOf_ofNat hm, if_neg (by omega), if_neg (by omega), if_pos (by omega)]
    have hfollow := (mayFollow_tail_iff (n := c.toNat) hm).mpr (by omega)
    refine (pieceAt_of_mayFollow hm hsize hfollow rest).trans (hchar ?_ 2)
    omega
  split
  case isTrue h3 =>
    refine ⟨_, [tail _, tail _], rfl, fun rest => ?_⟩
    have hm : c.toNat / 4096 % 16 + 0xE0 < 256 := by omega
    have hsize : sizeOf (UInt8.ofNat (c.toNat / 4096 % 16 + 0xE0)) = 1 + 2 := by
      rw [sizeOf_ofNat hm, if_neg (by omega), if_neg (by omega), if_neg (by omega),
        if_pos (by omega)]
    have hfollow := (mayFollow_tail_iff (n := c.toNat / 64) hm).mpr (by omega)
    refine (pieceAt_of_mayFollow hm hsize hfollow _).trans ?_
    refine (continued_tail _ _ 0 _ rest).trans (hchar ?_ 3)
    omega
  · refine ⟨_, [tail _, tail _, tail _], rfl, fun rest => ?_⟩
    have hm : c.toNat / 262144 % 8 + 0xF0 < 256 := by omega
    have hsize : sizeOf (UInt8.ofNat (c.toNat / 262144 % 8 + 0xF0)) = 2 + 2 := by
      rw [sizeOf_ofNat hm, if_neg (by omega), if_neg (by omega), if_neg (by omega),
        if_neg (by omega), if_pos (by omega)]
    have hfollow := (mayFollow_tail_iff (n := c.toNat / 4096) hm).mpr (by omega)
    refine (pieceAt_of_mayFollow hm hsize hfollow _).trans ?_
    refine (continued_tail _ _ 1 _ _).trans ((continued_tail _ _ 0 _ rest).trans (hchar ?_ 4))
    omega

/-- The bytes of the character of a number, for a number that has one. -/
theorem utf8EncodeChar_ofNat {n : Nat} (h : n < 0xD800 ∨ 0xDFFF < n ∧ n < 0x110000) :
    utf8EncodeChar (Char.ofNat n) =
      if n ≤ 0x7F then [UInt8.ofNat n]
      else if n ≤ 0x7FF then [UInt8.ofNat (n / 64 % 32 + 0xC0), tail n]
      else if n ≤ 0xFFFF then [UInt8.ofNat (n / 4096 % 16 + 0xE0), tail (n / 64), tail n]
      else [UInt8.ofNat (n / 262144 % 8 + 0xF0), tail (n / 4096), tail (n / 64), tail n] := by
  have hnumber : (Char.ofNat n).toNat = n := by
    have hchar : Char.ofNat n = Char.ofNatAux n h := dif_pos h
    exact congrArg Char.toNat hchar
  rw [utf8EncodeChar_eq, hnumber]

/-- After a first byte of a character of more than one stands one that may follow it. -/
theorem exists_mayFollow_of_pieceAt {first : UInt8} {size length : Nat} {rest : List UInt8}
    {c : Char} (hsize : sizeOf first = size + 2)
    (h : pieceAt first rest = .character c length) :
    ∃ second rest', rest = second :: rest' ∧ mayFollow first second = true := by
  unfold pieceAt at h
  simp only [hsize, Nat.succ_ne_zero, if_false] at h
  cases rest with
  | nil => cases h
  | cons second rest =>
    cases hfollow : mayFollow first second with
    | true => exact ⟨second, rest, rfl, hfollow⟩
    | false =>
      simp only [hfollow] at h
      cases h

/-- A piece that is a character has its bytes. -/
theorem exists_of_pieceAt_eq {first : UInt8} {rest : List UInt8} {c : Char} {length : Nat}
    (h : pieceAt first rest = .character c length) :
    ∃ more rest', rest = more ++ rest' ∧ utf8EncodeChar c = first :: more ∧
      length = more.length + 1 := by
  have hm := first.toNat_lt
  rw [← UInt8.ofNat_toNat (x := first)] at h ⊢
  generalize first.toNat = m at h hm ⊢
  have hsizes := sizeOf_ofNat hm
  match hsize : sizeOf (UInt8.ofNat m) with
  | 0 =>
    rw [pieceAt_of_sizeOf_zero hsize] at h
    cases h
  | 1 =>
    rw [pieceAt_of_sizeOf_one hsize, UInt8.toNat_ofNat_of_lt' hm] at h
    cases h
    have hsmall : m ≤ 0x7F := by
      rw [hsize] at hsizes
      split_ifs at hsizes <;> omega
    refine ⟨[], rest, rfl, ?_, rfl⟩
    rw [utf8EncodeChar_ofNat (by omega), if_pos hsmall]
  | size + 2 =>
    obtain ⟨second, rest, rfl, hfollow⟩ := exists_mayFollow_of_pieceAt hsize h
    obtain ⟨k, hk, rfl⟩ := exists_tail_of_continues (Bool.and_eq_true_iff.mp hfollow).1
    rw [pieceAt_of_mayFollow hm hsize hfollow, Nat.mod_eq_of_lt hk] at h
    rw [mayFollow_tail_iff hm, Nat.mod_eq_of_lt hk] at hfollow
    rw [hsize] at hsizes
    match size with
    | 0 =>
      cases h
      have hlead : 0xC2 ≤ m ∧ m < 0xE0 := by split_ifs at hsizes <;> omega
      have hfirst : (m % 2 ^ 5 * 64 + k) / 64 % 32 + 0xC0 = m := by omega
      have htail : tail (m % 2 ^ 5 * 64 + k) = tail k := tail_congr (by omega)
      refine ⟨[tail k], rest, rfl, ?_, rfl⟩
      rw [utf8EncodeChar_ofNat (by omega), if_neg (by omega), if_pos (by omega), hfirst, htail]
    | 1 =>
      obtain ⟨k₂, hk₂, rest, rfl, h₂⟩ := exists_tail_of_continued h
      cases h₂
      have hlead : 0xE0 ≤ m ∧ m < 0xF0 := by split_ifs at hsizes <;> omega
      generalize hvalue : (m % 2 ^ 4 * 64 + k) * 64 + k₂ = value
      have hfirst : value / 4096 % 16 + 0xE0 = m := by omega
      have htail : tail (value / 64) = tail k := tail_congr (by omega)
      have htail₂ : tail value = tail k₂ := tail_congr (by omega)
      refine ⟨[tail k, tail k₂], rest, rfl, ?_, rfl⟩
      rw [utf8EncodeChar_ofNat (by omega), if_neg (by omega), if_neg (by omega),
        if_pos (by omega), hfirst, htail, htail₂]
    | 2 =>
      obtain ⟨k₂, hk₂, rest, rfl, h₂⟩ := exists_tail_of_continued h
      obtain ⟨k₃, hk₃, rest, rfl, h₃⟩ := exists_tail_of_continued h₂
      cases h₃
      have hlead : 0xF0 ≤ m ∧ m < 0xF5 := by split_ifs at hsizes <;> omega
      generalize hvalue : ((m % 2 ^ 3 * 64 + k) * 64 + k₂) * 64 + k₃ = value
      have hfirst : value / 262144 % 8 + 0xF0 = m := by omega
      have htail : tail (value / 4096) = tail k := tail_congr (by omega)
      have htail₂ : tail (value / 64) = tail k₂ := tail_congr (by omega)
      have htail₃ : tail value = tail k₃ := tail_congr (by omega)
      refine ⟨[tail k, tail k₂, tail k₃], rest, rfl, ?_, rfl⟩
      rw [utf8EncodeChar_ofNat (by omega), if_neg (by omega), if_neg (by omega),
        if_neg (by omega), hfirst, htail, htail₂, htail₃]
    | size + 3 => split_ifs at hsizes <;> omega

/-- The character that is put in the place of a piece. -/
def Piece.shown : Piece → Char
  | .character c _ => c
  | .malformed _ _ => '\uFFFD'

/-- The pieces of written text are its characters. -/
theorem pieces_encode (cs : List Char) (position : Nat) :
    (pieces position (cs.flatMap utf8EncodeChar)).map (·.2) =
      cs.map fun c => Piece.character c (utf8EncodeChar c).length := by
  induction cs generalizing position with
  | nil =>
    rw [List.flatMap_nil, pieces]
    rfl
  | cons c cs ih =>
    obtain ⟨first, more, hchar, hpiece⟩ := exists_pieceAt c
    rw [List.flatMap_cons, List.map_cons, hchar, List.cons_append, pieces, hpiece, List.map_cons]
    simp only [Piece.length, Nat.add_sub_cancel, List.drop_left, ih, List.length_cons]

private theorem data_toByteArray (s : String) :
    s.toByteArray.data.toList = s.toList.flatMap utf8EncodeChar := by
  rw [← String.utf8Encode_toList, List.utf8Encode, List.data_toByteArray]

private theorem toList_eq (bytes : ByteArray) : bytes.toList = bytes.data.toList := by
  have hloop : ∀ i r, ByteArray.toList.loop bytes i r = r.reverse ++ bytes.data.toList.drop i := by
    intro i r
    fun_induction ByteArray.toList.loop bytes i r with
    | case1 i r hi ih =>
      have hlength : i < bytes.data.toList.length := hi
      have hget : bytes.get! i = bytes.data.toList[i] := getElem!_pos bytes.data i hi
      rw [ih, List.reverse_cons, List.append_assoc, List.singleton_append, hget,
        ← List.drop_eq_getElem_cons]
    | case2 i r hi =>
      have hlength : bytes.data.toList.length ≤ i := Nat.le_of_not_lt hi
      rw [List.drop_of_length_le hlength, List.append_nil]
  exact hloop 0 []

theorem encode_eq (s : String) : encode s = s.toList.flatMap utf8EncodeChar := by
  rw [encode, String.toUTF8_eq_toByteArray, toList_eq, data_toByteArray]

private theorem lossy_eq (bytes : List UInt8) : lossy bytes = (pieces 0 bytes).map (·.2.shown) :=
  rfl

private theorem malformed?_eq_none_iff {bytes : List UInt8} :
    malformed? bytes = none ↔ ∀ p ∈ pieces 0 bytes, ∃ c length, p.2 = .character c length := by
  refine List.findSome?_eq_none_iff.trans (forall₂_congr fun p _ => ?_)
  obtain ⟨position, piece⟩ := p
  cases piece <;> simp

/-- Bytes whose pieces are characters are the bytes of these. -/
theorem flatMap_pieces {position : Nat} {bytes : List UInt8}
    (h : ∀ p ∈ pieces position bytes, ∃ c length, p.2 = .character c length) :
    ((pieces position bytes).map (·.2.shown)).flatMap utf8EncodeChar = bytes := by
  fun_induction pieces position bytes with
  | case1 => rfl
  | case2 position b bs piece ih =>
    obtain ⟨⟨c, length, hpiece⟩, hrest⟩ := List.forall_mem_cons.mp h
    obtain ⟨more, rest, rfl, hbytes, rfl⟩ := exists_of_pieceAt_eq hpiece
    have hdrop : (more ++ rest).drop (piece.length - 1) = rest := by
      rw [show piece = .character c (more.length + 1) from hpiece]
      exact List.drop_left
    have hshown : piece.shown = c := congrArg Piece.shown hpiece
    rw [List.map_cons, List.flatMap_cons, hshown, hbytes, ih hrest, hdrop, List.cons_append]

/-- A text is read from its bytes as it was. -/
theorem decode_encode (s : String) : decode (encode s) = .ok s.toList := by
  have hpieces := pieces_encode s.toList 0
  have hwell : malformed? (encode s) = none := by
    rw [malformed?_eq_none_iff, encode_eq]
    intro p hmem
    have hpiece : p.2 ∈ (pieces 0 (s.toList.flatMap utf8EncodeChar)).map (·.2) :=
      List.mem_map.mpr ⟨p, hmem, rfl⟩
    rw [hpieces] at hpiece
    obtain ⟨c, -, hc⟩ := List.mem_map.mp hpiece
    exact ⟨c, _, hc.symm⟩
  have htext : lossy (encode s) = s.toList := by
    have hchars : lossy (encode s) = ((pieces 0 (encode s)).map (·.2)).map Piece.shown := by
      rw [lossy_eq, List.map_map]
      rfl
    rw [hchars, encode_eq, hpieces, List.map_map]
    exact List.map_id _
  rw [decode, hwell, htext]

/-- The bytes from which a text is read are those of that text alone. -/
theorem decode_eq_ok_iff {bytes : List UInt8} {s : String} :
    decode bytes = .ok s.toList ↔ bytes = encode s := by
  constructor
  · intro h
    rw [decode] at h
    split at h
    case h_1 => cases h
    case h_2 hwell =>
      have htext : (pieces 0 bytes).map (·.2.shown) = s.toList := by
        rw [← lossy_eq]
        exact Except.ok.inj h
      rw [encode_eq, ← htext, flatMap_pieces (malformed?_eq_none_iff.mp hwell)]
  · rintro rfl
    exact decode_encode s

end Characters

end CodeTwins.Utf8
