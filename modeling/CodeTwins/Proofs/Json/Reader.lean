import CodeTwins.Json.Reader
import CodeTwins.Json.Writer
import CodeTwins.Proofs.Decimal.Layout

/-!
# Reading strings and numbers

A reader takes a text from before the rest and gives a value. Strings are read as they were before
they were written, whichever characters were escaped. Numbers are read where something follows that
cannot belong to them.
-/
namespace CodeTwins.Json

open Reader

/-- The reader takes the text and gives the value, whatever the offset is. -/
def Takes {α : Type} (reader : Reader α) (text rest : List Char) (a : α) : Prop :=
  ∀ pos, reader.run ⟨text ++ rest, pos⟩ = .ok (a, ⟨rest, pos + text.length⟩)

section Takes

variable {α β : Type} {reader : Reader α} {text more rest : List Char} {a : α} {b : β}

theorem Takes.pure (a : α) (rest : List Char) : Takes (Pure.pure a) [] rest a := fun _ => rfl

theorem Takes.bind {next : α → Reader β} (h : Takes reader text (more ++ rest) a)
    (hnext : Takes (next a) more rest b) : Takes (reader >>= next) (text ++ more) rest b := by
  intro pos
  rw [StateT.run_bind, List.append_assoc, h pos]
  change (next a).run _ = _
  rw [hnext, List.length_append, Nat.add_assoc]

/-- A first step that takes nothing. -/
theorem Takes.bind_nil {next : α → Reader β} (h : Takes reader [] (text ++ rest) a)
    (hnext : Takes (next a) text rest b) : Takes (reader >>= next) text rest b :=
  h.bind hnext

/-- A first step that takes one character. -/
theorem Takes.bind_char {next : α → Reader β} {c : Char} (h : Takes reader [c] (more ++ rest) a)
    (hnext : Takes (next a) more rest b) : Takes (reader >>= next) (c :: more) rest b :=
  h.bind hnext

/-- A last step that takes nothing. -/
theorem Takes.bind_pure {next : α → Reader β} (h : Takes reader text rest a)
    (hnext : Takes (next a) [] rest b) : Takes (reader >>= next) text rest b := by
  have hboth : Takes (reader >>= next) (text ++ []) rest b := h.bind hnext
  rwa [List.append_nil] at hboth

/-- A step that looks at what is left. -/
theorem Takes.bind_get {next : Cursor → Reader β}
    (hnext : ∀ pos, Takes (next ⟨text ++ rest, pos⟩) text rest b) :
    Takes (get >>= next) text rest b := fun pos => hnext pos pos

private theorem Takes.discard (h : Takes reader text rest a) :
    Takes (discard reader) text rest () := by
  intro pos
  change (reader.run _).bind _ = _
  rw [h pos]
  rfl

theorem takes_peek (rest : List Char) : Takes peek [] rest rest.head? := fun _ => rfl

theorem takes_skip (text rest : List Char) : Takes (skip text.length) text rest () := by
  intro pos
  change Except.ok ((), Cursor.mk ((text ++ rest).drop text.length) _) = _
  rw [List.drop_left]

theorem takes_accept (c : Char) (rest : List Char) : Takes (accept c) [c] rest true := by
  refine (takes_peek (c :: rest)).bind_nil ?_
  rw [List.head?_cons, if_pos rfl]
  exact (takes_skip [c] rest).bind_pure (.pure true rest)

theorem takes_accept_false {c : Char} (h : rest.head? ≠ some c) :
    Takes (accept c) [] rest false := by
  refine (takes_peek rest).bind_nil ?_
  rw [if_neg h]
  exact .pure false rest

theorem takes_acceptWord (word : String) (rest : List Char) :
    Takes (acceptWord word) word.toList rest true := by
  intro pos
  have hword : word.toList.isPrefixOf (word.toList ++ rest) = true :=
    List.isPrefixOf_iff_prefix.mpr (List.prefix_append _ _)
  have hskip := takes_skip word.toList rest pos
  simp only [acceptWord, StateT.run_bind]
  change (if word.toList.isPrefixOf (word.toList ++ rest) = true then
    (do skip word.length; Pure.pure true : Reader Bool) else Pure.pure false).run _ = _
  rw [if_pos hword, StateT.run_bind, ← String.length_toList, hskip]
  rfl

theorem takes_acceptWord_false {word : String} (h : word.toList.isPrefixOf rest = false) :
    Takes (acceptWord word) [] rest false := by
  intro pos
  change (if word.toList.isPrefixOf rest = true then
    (do skip word.length; Pure.pure true : Reader Bool) else Pure.pure false).run _ = _
  rw [if_neg (by simp [h])]
  rfl

/-- The text starts with no character of a kind. -/
def StartsWithout (p : Char → Bool) (text : List Char) : Prop :=
  ∀ c ∈ text.head?, p c = false

theorem startsWithout_nil (p : Char → Bool) : StartsWithout p [] := by
  rintro c ⟨⟩

private theorem takes_takeWhile {p : Char → Bool} (htext : ∀ c ∈ text, p c = true)
    (hrest : StartsWithout p rest) : Takes (takeWhile p) text rest text := by
  intro pos
  have hnone : rest.takeWhile p = [] := by
    cases rest with
    | nil => rfl
    | cons c rest => exact List.takeWhile_cons_of_neg (by simp [hrest c rfl])
  have htaken : (text ++ rest).takeWhile p = text := by
    rw [List.takeWhile_append_of_pos htext, hnone, List.append_nil]
  change (do skip ((text ++ rest).takeWhile p).length
             Pure.pure ((text ++ rest).takeWhile p) : Reader (List Char)).run _ = _
  rw [htaken]
  exact (takes_skip text rest).bind_pure (.pure text rest) pos

def isBlank (c : Char) : Bool :=
  c == ' ' || c == '\t' || c == '\n' || c == '\r'

theorem takes_blanks (htext : ∀ c ∈ text, isBlank c = true) (hrest : StartsWithout isBlank rest) :
    Takes blanks text rest () :=
  (takes_takeWhile htext hrest).discard

theorem takes_blanks_nil (hrest : StartsWithout isBlank rest) : Takes blanks [] rest () :=
  takes_blanks (fun _ h => nomatch h) hrest

end Takes

section Strings

private theorem hexValue?_hexDigit : ∀ d < 16, hexValue? (Text.hexDigit d) = some d := by
  decide

private theorem hexNumber?_hexDigits {n : Nat} (hn : n < 0x10000) :
    hexNumber? (Text.hexDigits 4 n) = some n := by
  have h := fun m => hexValue?_hexDigit (m % 16) (Nat.mod_lt m (by decide))
  simp only [Text.hexDigits, List.nil_append, List.cons_append, hexNumber?, List.foldlM_cons, h,
    List.foldlM_nil, Option.map_some, Option.bind_eq_bind, Option.bind_some, Option.pure_def,
    Option.some.injEq]
  omega

private theorem length_hexDigits (width n : Nat) : (Text.hexDigits width n).length = width := by
  induction width generalizing n with
  | zero => rfl
  | succ width ih => simp [Text.hexDigits, ih]

variable {rest : List Char} {n : Nat}

private theorem takes_readUnit (hn : n < 0x10000) (hrest : rest ≠ []) :
    Takes readUnit (Text.hexDigits 4 n) rest n := by
  have hlength := length_hexDigits 4 n
  have htake : (Text.hexDigits 4 n ++ rest).take 4 = Text.hexDigits 4 n :=
    List.take_left' hlength
  have hmore : ¬ (Text.hexDigits 4 n ++ rest).length ≤ 4 := by
    have := List.length_pos_of_ne_nil hrest
    rw [List.length_append, hlength]
    omega
  have hskip := takes_skip (Text.hexDigits 4 n) rest
  rw [hlength] at hskip
  refine .bind_get fun pos => ?_
  simp only [htake, hexNumber?_hexDigits hn, if_neg hmore]
  exact hskip.bind_pure (.pure n rest)

private theorem takes_readLowHalf (hn : 0xDC00 ≤ n ∧ n ≤ 0xDFFF) (hrest : rest ≠ []) :
    Takes readLowHalf (escapeUnit n) rest (some n) := by
  have hlength := length_hexDigits 4 n
  have htake : (Text.hexDigits 4 n ++ rest).take 4 = Text.hexDigits 4 n :=
    List.take_left' hlength
  have hmore : ¬ (Text.hexDigits 4 n ++ rest).length ≤ 4 := by
    have := List.length_pos_of_ne_nil hrest
    rw [List.length_append, hlength]
    omega
  have hskip := takes_skip (escapeUnit n) rest
  rw [escapeUnit, List.length_cons, List.length_cons, hlength] at hskip
  refine .bind_get fun pos => ?_
  simp only [escapeUnit, List.cons_append, htake, hexNumber?_hexDigits (hn.2.trans_lt (by decide)),
    if_neg hmore, if_pos hn]
  exact hskip.bind_pure (.pure (some n) rest)

private theorem toNat_lt_or_gt (c : Char) :
    c.toNat < 0xD800 ∨ 0xDFFF < c.toNat ∧ c.toNat < 0x110000 :=
  c.valid

/-- An escaped character is read after its backslash and the letter. -/
theorem takes_readEscape (c : Char) (hrest : rest ≠ []) :
    Takes (readEscape 'u') ((escapeUnits c).drop 2) rest c := by
  have hvalid := toNat_lt_or_gt c
  by_cases hsmall : c.toNat < 0x10000
  · rw [escapeUnits, if_pos hsmall]
    refine (takes_readUnit hsmall hrest).bind_pure ?_
    have hnone : ¬ (0xD800 ≤ c.toNat ∧ c.toNat ≤ 0xDBFF) := by omega
    have hchar : charOfUnit c.toNat = c := by
      rw [charOfUnit, if_neg (by omega), Char.ofNat_toNat]
    rw [if_neg hnone, hchar]
    exact .pure c rest
  · rw [escapeUnits, if_neg hsmall]
    have hdrop : (escapeUnit (0xD800 + (c.toNat - 0x10000) / 1024) ++
        escapeUnit (0xDC00 + (c.toNat - 0x10000) % 1024)).drop 2 =
          Text.hexDigits 4 (0xD800 + (c.toNat - 0x10000) / 1024) ++
            escapeUnit (0xDC00 + (c.toNat - 0x10000) % 1024) := rfl
    dsimp only
    rw [hdrop]
    refine (takes_readUnit (by omega) (by simp [escapeUnit])).bind ?_
    rw [if_pos (by omega)]
    refine (takes_readLowHalf (by omega) hrest).bind_pure ?_
    have hnat : 0x10000 + (0xD800 + (c.toNat - 0x10000) / 1024 - 0xD800) * 1024 +
        (0xDC00 + (c.toNat - 0x10000) % 1024 - 0xDC00) = c.toNat := by omega
    dsimp only
    rw [hnat, Char.ofNat_toNat]
    exact .pure c rest

variable {start fuel : Nat} {done : List Char} {c d : Char} {more : List Char} {s : String}

private theorem Takes.readChars_escape (h : Takes (readEscape c) text (more ++ rest) d)
    (hmore : Takes (readChars start fuel (d :: done)) more rest s) :
    Takes (readChars start (fuel + 1) done) ('\\' :: c :: text ++ more) rest s := by
  refine (takes_peek _).bind_nil ?_
  refine .bind_char (takes_skip ['\\'] _) ?_
  refine (takes_peek _).bind_nil ?_
  exact .bind_char (takes_skip [c] _) (h.bind hmore)

private theorem Takes.readChars_plain (hquote : c ≠ '"') (hslash : c ≠ '\\') (hc : ¬ c.toNat < 0x20)
    (hmore : Takes (readChars start fuel (c :: done)) more rest s) :
    Takes (readChars start (fuel + 1) done) (c :: more) rest s := by
  refine (takes_peek _).bind_nil ?_
  simp only [List.cons_append, List.head?_cons]
  rw [if_neg hc]
  exact .bind_char (takes_skip [c] _) hmore

private theorem escapeUnits_eq (c : Char) :
    escapeUnits c = '\\' :: 'u' :: (escapeUnits c).drop 2 := by
  unfold escapeUnits
  split <;> rfl

private theorem writeChar_ne_nil (ascii : Bool) (c : Char) : writeChar ascii c ≠ [] := by
  unfold writeChar
  split
  iterate 7 exact List.cons_ne_nil _ _
  split
  · rw [escapeUnits_eq]
    exact List.cons_ne_nil _ _
  · exact List.cons_ne_nil _ _

private theorem Takes.readChars_writeChar (ascii : Bool) (hsome : more ++ rest ≠ [])
    (hmore : Takes (readChars start fuel (c :: done)) more rest s) :
    Takes (readChars start (fuel + 1) done) (writeChar ascii c ++ more) rest s := by
  unfold writeChar
  split
  iterate 7 exact .readChars_escape (.pure _ (more ++ rest)) hmore
  rename_i hquote hslash _ _ _ _ _
  split
  case isTrue =>
    rw [escapeUnits_eq]
    exact .readChars_escape (takes_readEscape c hsome) hmore
  case isFalse hplain =>
    exact .readChars_plain hquote hslash (fun hc => hplain (.inl hc)) hmore

private theorem takes_readChars (ascii : Bool) (start : Nat) (done rest : List Char)
    {chars : List Char} (hfuel : chars.length < fuel) :
    Takes (readChars start fuel done) (chars.flatMap (writeChar ascii) ++ ['"']) rest
      (String.ofList (done.reverse ++ chars)) := by
  induction chars generalizing fuel done with
  | nil =>
    obtain ⟨fuel, rfl⟩ := Nat.exists_eq_succ_of_ne_zero hfuel.ne'
    refine (takes_peek _).bind_nil ?_
    rw [List.append_nil]
    exact (takes_skip ['"'] rest).bind_pure (.pure _ rest)
  | cons c chars ih =>
    obtain ⟨fuel, rfl⟩ := Nat.exists_eq_succ_of_ne_zero hfuel.ne_zero
    have hmore := ih (c :: done) (Nat.lt_of_succ_lt_succ hfuel)
    rw [List.reverse_cons, List.append_assoc, List.singleton_append] at hmore
    rw [List.flatMap_cons, List.append_assoc]
    exact .readChars_writeChar ascii (by simp) hmore

private theorem length_le_flatMap_writeChar (ascii : Bool) (chars : List Char) :
    chars.length ≤ (chars.flatMap (writeChar ascii)).length := by
  induction chars with
  | nil => exact Nat.le_refl _
  | cons c chars ih =>
    have hsome := List.length_pos_of_ne_nil (writeChar_ne_nil ascii c)
    rw [List.flatMap_cons, List.length_append, List.length_cons]
    omega

theorem toList_writeString (style : Style) (s : String) :
    (writeString style s).toList = ['"'] ++ (s.toList.flatMap (writeChar style.ascii) ++ ['"']) := by
  rw [writeString, String.toList_ofList]
  rfl

/-- What is written for a string, after its opening quote, is read as the string. -/
theorem takes_readString (style : Style) (s : String) (rest : List Char) :
    Takes readString (s.toList.flatMap (writeChar style.ascii) ++ ['"']) rest s := by
  refine .bind_get fun pos => ?_
  have hlength := length_le_flatMap_writeChar style.ascii s.toList
  have hread : Takes (readChars (pos - 1)
      ((s.toList.flatMap (writeChar style.ascii) ++ ['"'] ++ rest).length + 1) [])
      (s.toList.flatMap (writeChar style.ascii) ++ ['"']) rest
      (String.ofList ([].reverse ++ s.toList)) := by
    refine takes_readChars style.ascii (pos - 1) [] rest ?_
    simp only [List.length_append]
    omega
  rwa [List.reverse_nil, List.nil_append, String.ofList_toList] at hread

end Strings

section Numbers

open Decimal

variable {whole fraction rest : List Char}

/-- What follows cannot belong to a number. -/
def EndsNumber (rest : List Char) : Prop :=
  StartsWithout (fun c => c.isDigit || c == '.' || c == 'e' || c == 'E') rest

private theorem EndsNumber.head {c : Char} (h : EndsNumber rest) (hc : c ∈ rest.head?) :
    c.isDigit = false ∧ c ≠ '.' ∧ c ≠ 'e' ∧ c ≠ 'E' := by
  have hnone := h c hc
  simp only [Bool.or_eq_false_iff, beq_eq_false_iff_ne] at hnone
  exact ⟨hnone.1.1.1, hnone.1.1.2, hnone.1.2, hnone.2⟩

private theorem takes_readFraction (hfraction : ∀ c ∈ fraction, c.isDigit = true)
    (hrest : StartsWithout (fun c => c.isDigit || c == '.') rest) :
    Takes readFraction (if fraction = [] then [] else '.' :: fraction) rest fraction := by
  refine .bind_get fun pos => ?_
  cases fraction with
  | nil =>
    rw [if_pos rfl, List.nil_append]
    split
    case h_1 heq =>
      have hdot := hrest '.' (congrArg List.head? heq)
      simp at hdot
    case h_2 => exact .pure [] rest
  | cons d fraction =>
    rw [if_neg (List.cons_ne_nil d fraction)]
    have hd := hfraction d List.mem_cons_self
    simp only [List.cons_append, hd, if_true]
    refine .bind_char (takes_skip ['.'] _) (takes_takeWhile hfraction ?_)
    intro c hc
    have hnone := hrest c hc
    rw [Bool.or_eq_false_iff] at hnone
    exact hnone.1

private theorem takes_readExponent_none (hrest : EndsNumber rest) :
    Takes readExponent [] rest none := by
  refine .bind_get fun pos => ?_
  have hnone : (rest.head? = some 'e' || rest.head? = some 'E') = false := by
    rw [Bool.or_eq_false_iff, decide_eq_false_iff_not, decide_eq_false_iff_not]
    exact ⟨fun h => (hrest.head h).2.2.1 rfl, fun h => (hrest.head h).2.2.2 rfl⟩
  simp only [List.nil_append, hnone]
  exact .pure none rest

private theorem takes_readExponent (e : Int) (hrest : StartsWithout Char.isDigit rest) :
    Takes readExponent ('e' :: exponentText e) rest (some e) := by
  obtain ⟨ds, htext, hsome, hdigits, hvalue⟩ := exists_exponentText e
  have hempty : ¬ ds.isEmpty = true := by simpa using hsome
  have hnatural : (natural ds : Int) = e.natAbs := congrArg Nat.cast hvalue
  rw [htext]
  refine .bind_get fun pos => ?_
  refine .bind_char (takes_skip ['e'] _) ?_
  by_cases hneg : e < 0
  · have hvalue : -(natural ds : Int) = e := by omega
    rw [if_pos hneg]
    refine .bind_char (takes_accept '-' _) ?_
    refine (takes_takeWhile hdigits hrest).bind_pure ?_
    rw [if_neg hempty, if_pos rfl, hvalue]
    exact .pure (some e) rest
  · have hvalue : (natural ds : Int) = e := by omega
    rw [if_neg hneg]
    refine (takes_accept_false (by simp)).bind_nil ?_
    refine .bind_char (takes_accept '+' _).discard ?_
    refine (takes_takeWhile hdigits hrest).bind_pure ?_
    rw [if_neg hempty, if_neg Bool.false_ne_true, hvalue]
    exact .pure (some e) rest

private theorem takes_exponentChars (p : Parts) (hrest : EndsNumber rest) :
    Takes readExponent p.exponentChars rest p.exponent := by
  unfold Parts.exponentChars
  cases p.exponent with
  | none => exact takes_readExponent_none hrest
  | some e => exact takes_readExponent e fun c hc => (hrest.head hc).1

/-- What a numeral is read as. One without a point and an exponent is an integer. -/
def numberOf (negative : Bool) (p : Parts) : Json :=
  if p.fraction = [] ∧ p.exponent = none then
    .int (if negative then -(p.coefficient : Int) else p.coefficient)
  else .float (nearest negative p.coefficient p.scale)

private theorem startsWithout_append {p : Char → Bool} {text rest : List Char}
    (htext : StartsWithout p text) (hrest : StartsWithout p rest) :
    StartsWithout p (text ++ rest) := by
  cases text with
  | nil => exact hrest
  | cons c text => exact htext

private theorem takes_sign (negative : Bool) (hrest : StartsWithout (· == '-') rest) :
    Takes (accept '-') (if negative then ['-'] else []) rest negative := by
  cases negative with
  | true => exact takes_accept '-' rest
  | false => exact takes_accept_false fun h => by simpa using hrest '-' h

/-- The digits before the point. No other digit follows a zero. -/
theorem takes_whole {β : Type} {next : List Char → Reader β} {more : List Char} {b : β}
    (hwhole : IsNumeral whole ∨ whole = ['0']) (hmore : StartsWithout Char.isDigit (more ++ rest))
    (hnext : Takes (next whole) more rest b) :
    Takes (do if ← accept '0' then next (← pure ['0']) else next (← takeWhile Char.isDigit))
      (whole ++ more) rest b := by
  rcases hwhole with hnumeral | rfl
  · obtain ⟨c, ds, hcons, hc⟩ := hnumeral.head
    refine (takes_accept_false ?_).bind_nil ((takes_takeWhile hnumeral.digits hmore).bind hnext)
    rw [hcons]
    simpa using hc
  · exact (takes_accept '0' _).bind hnext

/-- A numeral is read if it is not an integer with too many digits. -/
theorem takes_readNumber {p : Parts} (hwhole : IsNumeral p.whole ∨ p.whole = ['0'])
    (hfraction : ∀ c ∈ p.fraction, c.isDigit = true)
    (hshort : p.fraction = [] ∧ p.exponent = none → p.whole.length ≤ Numeral.maxDigits)
    (negative : Bool) (hrest : EndsNumber rest) :
    Takes readNumber (if negative then '-' :: p.chars else p.chars) rest (numberOf negative p) := by
  let point := if p.fraction = [] then [] else '.' :: p.fraction
  have htext : (if negative then '-' :: p.chars else p.chars) =
      (if negative then ['-'] else []) ++ (p.whole ++ (point ++ p.exponentChars)) := by
    cases negative <;> simp [Parts.chars, point]
  have hexponent : StartsWithout (fun c => c.isDigit || c == '.') (p.exponentChars ++ rest) := by
    refine startsWithout_append ?_ fun c hc => ?_
    · unfold Parts.exponentChars
      cases p.exponent <;> simp [StartsWithout]
    · simp [(hrest.head hc).1, (hrest.head hc).2.1]
  have hpoint : StartsWithout Char.isDigit (point ++ p.exponentChars ++ rest) := by
    rw [List.append_assoc]
    refine startsWithout_append ?_ fun c hc => ?_
    · unfold point
      split <;> simp [StartsWithout]
    · exact (Bool.or_eq_false_iff.mp (hexponent c hc)).1
  obtain ⟨c, ds, hcons, hc⟩ : ∃ c ds, p.whole = c :: ds ∧ c.isDigit = true := by
    rcases hwhole with hnumeral | hzero
    · obtain ⟨c, ds, hcons, -⟩ := hnumeral.head
      exact ⟨c, ds, hcons, hnumeral.digits c (hcons ▸ List.mem_cons_self)⟩
    · exact ⟨'0', [], hzero, rfl⟩
  have hsign : StartsWithout (· == '-') (p.whole ++ (point ++ p.exponentChars) ++ rest) := by
    rw [hcons]
    rintro d ⟨⟩
    simp only [beq_eq_false_iff_ne]
    rintro rfl
    cases hc
  have hsome : ¬ p.whole.isEmpty = true := by simp [hcons]
  rw [htext]
  refine .bind_get fun pos => ?_
  refine (takes_sign negative hsign).bind ?_
  refine takes_whole hwhole hpoint ?_
  rw [if_neg hsome]
  refine (takes_readFraction hfraction hexponent).bind ?_
  refine (takes_exponentChars p hrest).bind_pure ?_
  have hnumber : (p.fraction.isEmpty && p.exponent.isNone) = true ↔
      p.fraction = [] ∧ p.exponent = none := by simp
  dsimp only
  unfold numberOf
  by_cases hplain : p.fraction = [] ∧ p.exponent = none
  · rw [if_pos (hnumber.mpr hplain), if_pos hplain, if_neg (Nat.not_lt.mpr (hshort hplain))]
    exact .pure _ rest
  · rw [if_neg (hnumber.not.mpr hplain), if_neg hplain]
    exact .pure _ rest

private theorem isNumeral_or_zero (n : Nat) :
    IsNumeral (Nat.toDigits 10 n) ∨ Nat.toDigits 10 n = ['0'] := by
  rcases Nat.eq_zero_or_pos n with rfl | hpos
  · exact .inr rfl
  · exact .inl (isNumeral_toDigits hpos)

theorem toList_toString (n : Int) :
    (toString n).toList =
      if n < 0 then '-' :: Nat.toDigits 10 n.natAbs else Nat.toDigits 10 n.natAbs := by
  cases n with
  | ofNat n =>
    have hpos : ¬ Int.ofNat n < 0 := Int.not_lt.mpr (Int.natCast_nonneg n)
    rw [if_neg hpos]
    exact String.toList_ofList
  | negSucc n =>
    have hdigits : (Nat.repr (n + 1)).toList = Nat.toDigits 10 (n + 1) := String.toList_ofList
    change ("-" ++ Nat.repr (n + 1)).toList = _
    rw [if_pos (Int.negSucc_lt_zero n), String.toList_append, hdigits]
    rfl

theorem takes_int {n : Int} (hn : Numeral.IsShort n) (hrest : EndsNumber rest) :
    Takes readNumber (toString n).toList rest (.int n) := by
  let p : Parts := ⟨Nat.toDigits 10 n.natAbs, [], none⟩
  have htext : (toString n).toList = if decide (n < 0) then '-' :: p.chars else p.chars := by
    rw [toList_toString]
    simp [p, Parts.chars, Parts.exponentChars]
  have hvalue : numberOf (decide (n < 0)) p = .int n := by
    have hcoefficient : p.coefficient = n.natAbs := by
      simp [p, Parts.coefficient, natural_toDigits]
    rw [numberOf, if_pos ⟨rfl, rfl⟩, hcoefficient]
    congr 1
    by_cases hneg : n < 0
    · simp only [hneg, decide_true, if_true]
      omega
    · simp only [hneg, decide_false, Bool.false_eq_true, if_false]
      omega
  have hread := takes_readNumber (p := p) (isNumeral_or_zero n.natAbs)
    (fun _ h => absurd h List.not_mem_nil) (fun _ => hn) (decide (n < 0)) hrest
  rwa [← htext, hvalue] at hread

theorem takes_float {x : Float} {units : Nat} {exponent : Int}
    (hx : magnitude x = .finite units exponent) (hrest : EndsNumber rest) :
    Takes readNumber (text x).toList rest (.float x) := by
  obtain ⟨p, hfits, hnearest, htext⟩ := exists_parts_text hx
  have hreal : ¬ (p.fraction = [] ∧ p.exponent = none) :=
    fun h => hfits.real.elim (· h.1) (· h.2)
  have hread := takes_readNumber hfits.whole hfits.fraction (fun h => absurd h hreal)
    (isNegative x) hrest
  have hvalue : numberOf (isNegative x) p = .float x := by
    rw [numberOf, if_neg hreal, hnearest]
  rwa [← htext, hvalue] at hread

end Numbers

end CodeTwins.Json
