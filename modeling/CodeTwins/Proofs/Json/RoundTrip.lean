import CodeTwins.Proofs.Json.Reader

/-!
# Reading what is written

Whatever the style, the text of a value is read as the value, if no integer within it is too long and no
object within it has two fields of one name.
-/
namespace CodeTwins.Json

open Reader Decimal

/-- No integer within the value is too long, and no object has two fields of one name. -/
inductive Readable : Json → Prop where
  | null : Readable .null
  | bool (b : Bool) : Readable (.bool b)
  | int {n : Int} (hn : Numeral.IsShort n) : Readable (.int n)
  | float (x : Float) : Readable (.float x)
  | str (s : String) : Readable (.str s)
  | arr {items : List Json} (hitems : ∀ j ∈ items, Readable j) : Readable (.arr items)
  | obj {fields : List (String × Json)} (hnames : (fields.map (·.1)).Nodup)
      (hfields : ∀ f ∈ fields, Readable f.2) : Readable (.obj fields)

private theorem setField_of_not_mem {name : String} {fields : List (String × Json)} (value : Json)
    (h : name ∉ fields.map (·.1)) : setField name value fields = fields ++ [(name, value)] := by
  induction fields with
  | nil => rfl
  | cons f fields ih =>
    obtain ⟨hf, hfields⟩ := not_or.mp (List.mem_cons.not.mp h)
    rw [setField, if_neg (Ne.symm hf), ih hfields]
    rfl

variable {style : Style} {fuel : Nat} {text rest : List Char} {j : Json}

section Words

/-- A word that does not come next is passed over. -/
theorem Takes.past_word {word : String} {value : Json} {next : Reader Json}
    (hword : word.toList.isPrefixOf (text ++ rest) = false) (h : Takes next text rest j) :
    Takes (do if ← acceptWord word then return value else next) text rest j :=
  (takes_acceptWord_false hword).bind_nil h

private theorem takes_word (word : String) (value : Json) (next : Reader Json) (rest : List Char) :
    Takes (do if ← acceptWord word then return value else next) word.toList rest value :=
  (takes_acceptWord word rest).bind_pure (.pure value rest)

private theorem takes_null (rest : List Char) :
    Takes (readValue (fuel + 1)) "null".toList rest .null :=
  (takes_peek _).bind_nil (takes_word "null" .null _ rest)

private theorem takes_true (rest : List Char) :
    Takes (readValue (fuel + 1)) "true".toList rest (.bool true) :=
  (takes_peek _).bind_nil (.past_word rfl (takes_word "true" _ _ rest))

private theorem takes_false (rest : List Char) :
    Takes (readValue (fuel + 1)) "false".toList rest (.bool false) :=
  (takes_peek _).bind_nil (.past_word rfl (.past_word rfl (takes_word "false" _ _ rest)))

private theorem takes_float_word {x : Float}
    (hx : ∀ units exponent, magnitude x ≠ .finite units exponent)
    (rest : List Char) : Takes (readValue (fuel + 1)) (writeFloat x).toList rest (.float x) := by
  unfold writeFloat
  cases hmagnitude : magnitude x with
  | notANumber =>
    rw [eq_notANumber_of_magnitude hmagnitude]
    exact (takes_peek _).bind_nil
      (.past_word rfl (.past_word rfl (.past_word rfl (takes_word "NaN" _ _ rest))))
  | infinite =>
    rw [eq_infinity_of_magnitude hmagnitude]
    cases isNegative x with
    | true =>
      exact (takes_peek _).bind_nil (.past_word rfl (.past_word rfl (.past_word rfl
        (.past_word rfl (.past_word rfl (takes_word "-Infinity" _ _ rest))))))
    | false =>
      exact (takes_peek _).bind_nil (.past_word rfl (.past_word rfl (.past_word rfl
        (.past_word rfl (takes_word "Infinity" _ _ rest)))))
  | finite units exponent => exact absurd hmagnitude (hx units exponent)

/-- The text starts as a number does: with a digit, or with a minus sign and a digit. -/
def StartsNumber (text : List Char) : Prop :=
  ∃ c cs, text = c :: cs ∧ (c.isDigit = true ∨ c = '-' ∧ ∃ d ds, cs = d :: ds ∧ d.isDigit = true)

private theorem ne_of_startsNumber {c d : Char} {p : Prop} (hc : c.isDigit = true ∨ c = '-' ∧ p)
    (hdigit : d.isDigit = false) (hminus : d ≠ '-') : d ≠ c := by
  rintro rfl
  rcases hc with hc | ⟨rfl, -⟩
  · exact Bool.false_ne_true (hdigit.symm.trans hc)
  · exact hminus rfl

private theorem isPrefixOf_cons_of_ne {c d : Char} (h : c ≠ d) (cs ds : List Char) :
    (c :: cs).isPrefixOf (d :: ds) = false := by
  simp [List.isPrefixOf, h]

private theorem takes_number (htext : StartsNumber text) (h : Takes readNumber text rest j) :
    Takes (readValue (fuel + 1)) text rest j := by
  obtain ⟨c, cs, rfl, hc⟩ := htext
  have hne : ∀ d : Char, d.isDigit = false → d ≠ '-' → d ≠ c := fun _ => ne_of_startsNumber hc
  have hinfinity : "-Infinity".toList.isPrefixOf (c :: cs ++ rest) = false := by
    rcases hc with hc | ⟨rfl, d, ds, rfl, hd⟩
    · refine isPrefixOf_cons_of_ne ?_ _ _
      rintro rfl
      cases hc
    · refine isPrefixOf_cons_of_ne (c := 'I') ?_ _ _
      rintro rfl
      cases hd
  refine (takes_peek _).bind_nil ?_
  rw [List.cons_append, List.head?_cons]
  split
  case h_1 heq => exact absurd (Option.some.inj heq).symm (hne '"' rfl (by decide))
  case h_2 heq => exact absurd (Option.some.inj heq).symm (hne '\x7b' rfl (by decide))
  case h_3 heq => exact absurd (Option.some.inj heq).symm (hne '[' rfl (by decide))
  case h_4 =>
    have hword : ∀ d ds, d.isDigit = false → d ≠ '-' →
        (d :: ds).isPrefixOf (c :: cs ++ rest) = false :=
      fun d ds hdigit hminus => isPrefixOf_cons_of_ne (hne d hdigit hminus) ds _
    exact .past_word (hword 'n' _ rfl (by decide)) (.past_word (hword 't' _ rfl (by decide))
      (.past_word (hword 'f' _ rfl (by decide)) (.past_word (hword 'N' _ rfl (by decide))
        (.past_word (hword 'I' _ rfl (by decide)) (.past_word hinfinity h)))))

private theorem startsNumber_of_sign {negative : Bool} {c : Char} {cs : List Char}
    (hc : c.isDigit = true) : StartsNumber (if negative then '-' :: c :: cs else c :: cs) := by
  cases negative with
  | true => exact ⟨'-', c :: cs, rfl, .inr ⟨rfl, c, cs, rfl, hc⟩⟩
  | false => exact ⟨c, cs, rfl, .inl hc⟩

private theorem startsNumber_int (n : Int) : StartsNumber (toString n).toList := by
  obtain ⟨c, cs, hdigits⟩ :=
    List.exists_cons_of_ne_nil (Nat.toDigits_ne_nil (b := 10) (n := n.natAbs))
  have hc : c.isDigit = true :=
    Nat.isDigit_of_mem_toDigits (by decide) (by decide) (hdigits ▸ List.mem_cons_self)
  have hstarts : StartsNumber (if decide (n < 0) then '-' :: c :: cs else c :: cs) :=
    startsNumber_of_sign hc
  rw [toList_toString, hdigits]
  simpa only [decide_eq_true_iff] using hstarts

private theorem startsNumber_text {x : Float} {units : Nat} {exponent : Int}
    (hx : magnitude x = .finite units exponent) : StartsNumber (Decimal.text x).toList := by
  obtain ⟨p, hfits, -, htext⟩ := exists_parts_text hx
  obtain ⟨c, cs, hchars, hc⟩ := hfits.exists_cons
  rw [htext, hchars]
  exact startsNumber_of_sign hc

end Words

section Values

/-- The text of the value is read as the value, with as much fuel as the text has characters. -/
def ReadsBack (style : Style) (j : Json) : Prop :=
  ∀ {fuel : Nat} {rest : List Char}, (writeIn style j).toList.length ≤ fuel → EndsNumber rest →
    Takes (readValue fuel) (writeIn style j).toList rest j

/-- The text starts with a character that is neither a blank nor a byte order mark and does not close
anything. -/
def Opens (text : List Char) : Prop :=
  ∃ c, text.head? = some c ∧ isBlank c = false ∧ c ≠ '\uFEFF' ∧ c ≠ ']' ∧ c ≠ '\x7d'

private theorem StartsNumber.opens (h : StartsNumber text) : Opens text := by
  obtain ⟨c, cs, rfl, hc⟩ := h
  have hne : ∀ d : Char, d.isDigit = false → d ≠ '-' → c ≠ d :=
    fun _ hdigit hminus => (ne_of_startsNumber hc hdigit hminus).symm
  refine ⟨c, rfl, ?_, hne '\uFEFF' rfl (by decide), hne ']' rfl (by decide),
    hne '\x7d' rfl (by decide)⟩
  simp only [isBlank, Bool.or_eq_false_iff, beq_eq_false_iff_ne]
  exact ⟨⟨⟨hne ' ' rfl (by decide), hne '\t' rfl (by decide)⟩, hne '\n' rfl (by decide)⟩,
    hne '\r' rfl (by decide)⟩

theorem opens_writeIn (style : Style) (j : Json) : Opens (writeIn style j).toList := by
  cases j with
  | null => exact ⟨'n', by simp [writeIn], rfl, by decide⟩
  | bool b =>
    cases b with
    | true => exact ⟨'t', by simp [writeIn], rfl, by decide⟩
    | false => exact ⟨'f', by simp [writeIn], rfl, by decide⟩
  | int n => exact (startsNumber_int n).opens
  | float x =>
    rw [writeIn, writeFloat]
    cases hx : magnitude x with
    | notANumber => exact ⟨'N', by simp, rfl, by decide⟩
    | infinite =>
      cases isNegative x with
      | true => exact ⟨'-', by simp, rfl, by decide⟩
      | false => exact ⟨'I', by simp, rfl, by decide⟩
    | finite units exponent => exact (startsNumber_text hx).opens
  | str s =>
    rw [writeIn, toList_writeString]
    exact ⟨'"', by simp, rfl, by decide⟩
  | arr items =>
    rw [writeIn, String.toList_append, String.toList_append]
    exact ⟨'[', by simp, rfl, by decide⟩
  | obj fields =>
    rw [writeIn, String.toList_append, String.toList_append]
    exact ⟨'\x7b', by simp, rfl, by decide⟩

private theorem Opens.startsWithout_blank (h : Opens text) (rest : List Char) :
    StartsWithout isBlank (text ++ rest) := by
  obtain ⟨c, hc, hblank, -⟩ := h
  obtain ⟨cs, rfl⟩ := List.head?_eq_some_iff.mp hc
  rintro d ⟨⟩
  exact hblank

private theorem Opens.head?_ne (h : Opens text) (rest : List Char) :
    (text ++ rest).head? ≠ some ']' ∧ (text ++ rest).head? ≠ some '\x7d' := by
  obtain ⟨c, hc, -, -, hbracket, hbrace⟩ := h
  obtain ⟨cs, rfl⟩ := List.head?_eq_some_iff.mp hc
  exact ⟨fun heq => hbracket (Option.some.inj heq), fun heq => hbrace (Option.some.inj heq)⟩

private theorem endsNumber_cons {c : Char} (hc : c = ',' ∨ c = ']' ∨ c = '\x7d') (rest : List Char) :
    EndsNumber (c :: rest) := by
  rintro d ⟨⟩
  rcases hc with rfl | rfl | rfl <;> rfl

private theorem takes_no_blanks {c : Char} (hc : isBlank c = false) (rest : List Char) :
    Takes blanks [] (c :: rest) () := by
  refine takes_blanks_nil ?_
  rintro d ⟨⟩
  exact hc

private theorem Opens.takes_no_blanks (h : Opens text) (rest : List Char) :
    Takes blanks [] (text ++ rest) () :=
  takes_blanks_nil (h.startsWithout_blank rest)

theorem length_pos_writeIn (style : Style) (j : Json) : 0 < (writeIn style j).toList.length := by
  obtain ⟨c, hc, -⟩ := opens_writeIn style j
  obtain ⟨cs, hcons⟩ := List.head?_eq_some_iff.mp hc
  rw [hcons]
  exact Nat.succ_pos _

/-- Fuel for the text of a value is enough for a step. -/
theorem exists_fuel (h : (writeIn style j).toList.length ≤ fuel) : ∃ n, fuel = n + 1 :=
  Nat.exists_eq_succ_of_ne_zero ((length_pos_writeIn style j).trans_le h).ne'

private theorem toList_writeItems_cons (style : Style) (j j' : Json) (items : List Json) :
    (writeItems style (j :: j' :: items)).toList = (writeIn style j).toList ++
      ([','] ++ (style.gap.toList ++ (writeItems style (j' :: items)).toList)) := by
  rw [writeItems]
  · simp
  · exact nofun

private theorem Opens.append (h : Opens text) (more : List Char) : Opens (text ++ more) := by
  obtain ⟨c, hc, hopens⟩ := h
  obtain ⟨cs, rfl⟩ := List.head?_eq_some_iff.mp hc
  exact ⟨c, rfl, hopens⟩

private theorem opens_writeItems (style : Style) (j : Json) (items : List Json) :
    Opens (writeItems style (j :: items)).toList := by
  cases items with
  | nil => exact opens_writeIn style j
  | cons j' items =>
    rw [toList_writeItems_cons]
    exact (opens_writeIn style j).append _

private theorem takes_readItems (hgap : ∀ c ∈ style.gap.toList, isBlank c = true) {items : List Json}
    (hsome : items ≠ []) (hitems : ∀ j ∈ items, ReadsBack style j) (done : List Json)
    (hfuel : (writeItems style items).toList.length < fuel) :
    Takes (readItems fuel done) ((writeItems style items).toList ++ [']']) rest
      (.arr (done.reverse ++ items)) := by
  induction items generalizing fuel done with
  | nil => exact absurd rfl hsome
  | cons j items ih =>
    obtain ⟨hj, hmore⟩ := List.forall_mem_cons.mp hitems
    obtain ⟨fuel, rfl⟩ := Nat.exists_eq_succ_of_ne_zero hfuel.ne_zero
    cases items with
    | nil =>
      refine (hj (Nat.le_of_lt_succ hfuel) (endsNumber_cons (.inr (.inl rfl)) rest)).bind ?_
      refine (takes_no_blanks rfl rest).bind_nil ?_
      refine (takes_accept ']' rest).bind_pure ?_
      rw [if_pos rfl, List.reverse_cons]
      exact .pure _ rest
    | cons j' items =>
      have hlength := length_pos_writeIn style j
      rw [toList_writeItems_cons] at hfuel ⊢
      simp only [List.length_append, List.length_singleton] at hfuel
      have hlt : (writeItems style (j' :: items)).toList.length < fuel := by omega
      have hnext := ih (List.cons_ne_nil j' items) hmore (j :: done) hlt
      rw [List.reverse_cons, List.append_assoc, List.singleton_append] at hnext
      simp only [List.append_assoc]
      refine (hj (by omega) (endsNumber_cons (.inl rfl) _)).bind ?_
      refine (takes_no_blanks rfl _).bind_nil ?_
      refine (takes_accept_false (by simp)).bind_nil ?_
      refine (takes_accept ',' _).bind ?_
      refine (takes_blanks hgap ?_).bind hnext
      exact ((opens_writeItems style j' items).append _).startsWithout_blank rest

private theorem toList_writeFields_cons (style : Style) (f f' : String × Json)
    (fields : List (String × Json)) :
    (writeFields style (f :: f' :: fields)).toList = (writeString style f.1).toList ++
      ([':'] ++ (style.gap.toList ++ ((writeIn style f.2).toList ++
        ([','] ++ (style.gap.toList ++ (writeFields style (f' :: fields)).toList))))) := by
  rw [writeFields]
  · simp
  · exact nofun

/-- A name with what stands between it and its value. -/
theorem takes_name {β : Type} {next : String → Reader β} {more : List Char} {b : β}
    (hgap : ∀ c ∈ style.gap.toList, isBlank c = true) (name : String) (hmore : Opens more)
    (hnext : Takes (next name) more rest b) :
    Takes (do
        if !(← accept '"') then stop
        let name ← readString
        blanks
        if !(← accept ':') then stop
        blanks
        next name)
      ((writeString style name).toList ++ ([':'] ++ (style.gap.toList ++ more))) rest b := by
  rw [toList_writeString, List.append_assoc]
  refine (takes_accept '"' _).bind ?_
  refine (takes_readString style name _).bind ?_
  refine (takes_no_blanks rfl _).bind_nil ?_
  refine (takes_accept ':' _).bind ?_
  exact (takes_blanks hgap (hmore.startsWithout_blank rest)).bind hnext

private theorem opens_writeFields (style : Style) (f : String × Json)
    (fields : List (String × Json)) : Opens (writeFields style (f :: fields)).toList := by
  have hname : Opens (writeString style f.1).toList := by
    rw [toList_writeString]
    exact ⟨'"', by simp, rfl, by decide⟩
  cases fields with
  | nil =>
    rw [writeFields, String.toList_append, String.toList_append, String.toList_append,
      List.append_assoc, List.append_assoc]
    exact hname.append _
  | cons f' fields =>
    rw [toList_writeFields_cons]
    exact hname.append _

private theorem takes_readFields (hgap : ∀ c ∈ style.gap.toList, isBlank c = true)
    {fields : List (String × Json)} (hsome : fields ≠ [])
    (hfields : ∀ f ∈ fields, ReadsBack style f.2) {done : List (String × Json)}
    (hnames : ((done ++ fields).map (·.1)).Nodup)
    (hfuel : (writeFields style fields).toList.length < fuel) :
    Takes (readFields fuel done) ((writeFields style fields).toList ++ ['\x7d']) rest
      (.obj (done ++ fields)) := by
  induction fields generalizing fuel done with
  | nil => exact absurd rfl hsome
  | cons f fields ih =>
    obtain ⟨hf, hmore⟩ := List.forall_mem_cons.mp hfields
    obtain ⟨fuel, rfl⟩ := Nat.exists_eq_succ_of_ne_zero hfuel.ne_zero
    have hset : setField f.1 f.2 done = done ++ [f] := by
      refine setField_of_not_mem f.2 fun hname => ?_
      rw [List.map_append, List.map_cons] at hnames
      exact (List.nodup_append.mp hnames).2.2 _ hname _ List.mem_cons_self rfl
    cases fields with
    | nil =>
      have htext : (writeFields style [f]).toList = (writeString style f.1).toList ++
          ([':'] ++ (style.gap.toList ++ (writeIn style f.2).toList)) := by
        rw [writeFields]
        simp
      rw [htext] at hfuel ⊢
      simp only [List.length_append, List.append_assoc] at hfuel ⊢
      refine takes_name hgap f.1 ((opens_writeIn style f.2).append _) ?_
      refine (hf (by omega) (endsNumber_cons (.inr (.inr rfl)) rest)).bind ?_
      refine (takes_no_blanks rfl rest).bind_nil ?_
      refine (takes_accept '\x7d' rest).bind_pure ?_
      rw [if_pos rfl, hset]
      exact .pure _ rest
    | cons f' fields =>
      rw [toList_writeFields_cons] at hfuel ⊢
      simp only [List.length_append, List.length_singleton] at hfuel
      have hlt : (writeFields style (f' :: fields)).toList.length < fuel := by omega
      have hnodup : ((done ++ [f] ++ f' :: fields).map (·.1)).Nodup := by simpa using hnames
      have hnext := ih (List.cons_ne_nil f' fields) hmore hnodup hlt
      rw [List.append_assoc, List.singleton_append] at hnext
      simp only [List.append_assoc]
      refine takes_name hgap f.1 ((opens_writeIn style f.2).append _) ?_
      refine (hf (by omega) (endsNumber_cons (.inl rfl) _)).bind ?_
      refine (takes_no_blanks rfl _).bind_nil ?_
      refine (takes_accept_false (by simp)).bind_nil ?_
      refine (takes_accept ',' _).bind ?_
      rw [hset]
      refine (takes_blanks hgap ?_).bind hnext
      exact ((opens_writeFields style f' fields).append _).startsWithout_blank rest

private theorem readsBack_str (style : Style) (s : String) : ReadsBack style (.str s) := by
  intro fuel rest hfuel _
  obtain ⟨fuel, rfl⟩ := exists_fuel hfuel
  rw [writeIn, toList_writeString]
  refine (takes_peek _).bind_nil ?_
  refine (takes_skip ['"'] _).bind ?_
  exact (takes_readString style s rest).bind_pure (.pure _ rest)

private theorem readsBack_float (style : Style) (x : Float) : ReadsBack style (.float x) := by
  intro fuel rest hfuel hrest
  obtain ⟨fuel, rfl⟩ := exists_fuel hfuel
  rw [writeIn]
  by_cases hx : ∃ units exponent, magnitude x = .finite units exponent
  · obtain ⟨units, exponent, hx⟩ := hx
    have htext : writeFloat x = Decimal.text x := by simp only [writeFloat, hx]
    rw [htext]
    exact takes_number (startsNumber_text hx) (takes_float hx hrest)
  · exact takes_float_word (fun units exponent h => hx ⟨units, exponent, h⟩) rest

private theorem readsBack_arr (hgap : ∀ c ∈ style.gap.toList, isBlank c = true) {items : List Json}
    (hitems : ∀ j ∈ items, ReadsBack style j) : ReadsBack style (.arr items) := by
  intro fuel rest hfuel _
  have htext : (writeIn style (.arr items)).toList =
      ['['] ++ ((writeItems style items).toList ++ [']']) := by
    rw [writeIn]
    simp
  rw [htext] at hfuel ⊢
  simp only [List.length_append, List.length_singleton] at hfuel
  obtain ⟨fuel, rfl⟩ := Nat.exists_eq_add_of_le' (Nat.le_of_add_right_le hfuel)
  refine (takes_peek _).bind_nil ?_
  refine (takes_skip ['['] _).bind ?_
  cases items with
  | nil =>
    refine (takes_no_blanks rfl rest).bind_nil ?_
    exact (takes_accept ']' rest).bind_pure (.pure _ rest)
  | cons j items =>
    have hopens := (opens_writeItems style j items).append [']']
    refine (hopens.takes_no_blanks rest).bind_nil ?_
    refine (takes_accept_false (hopens.head?_ne rest).1).bind_nil ?_
    exact takes_readItems hgap (List.cons_ne_nil j items) hitems [] (by omega)

private theorem readsBack_obj (hgap : ∀ c ∈ style.gap.toList, isBlank c = true)
    {fields : List (String × Json)} (hnames : (fields.map (·.1)).Nodup)
    (hfields : ∀ f ∈ fields, ReadsBack style f.2) : ReadsBack style (.obj fields) := by
  intro fuel rest hfuel _
  have htext : (writeIn style (.obj fields)).toList =
      ['\x7b'] ++ ((writeFields style fields).toList ++ ['\x7d']) := by
    rw [writeIn]
    simp
  rw [htext] at hfuel ⊢
  simp only [List.length_append, List.length_singleton] at hfuel
  obtain ⟨fuel, rfl⟩ := Nat.exists_eq_add_of_le' (Nat.le_of_add_right_le hfuel)
  refine (takes_peek _).bind_nil ?_
  refine (takes_skip ['\x7b'] _).bind ?_
  cases fields with
  | nil =>
    refine (takes_no_blanks rfl rest).bind_nil ?_
    exact (takes_accept '\x7d' rest).bind_pure (.pure _ rest)
  | cons f fields =>
    have hopens := (opens_writeFields style f fields).append ['\x7d']
    refine (hopens.takes_no_blanks rest).bind_nil ?_
    refine (takes_accept_false (hopens.head?_ne rest).2).bind_nil ?_
    exact takes_readFields hgap (List.cons_ne_nil f fields) hfields hnames (by omega)

private theorem Readable.readsBack (hgap : ∀ c ∈ style.gap.toList, isBlank c = true)
    (h : j.Readable) : ReadsBack style j := by
  induction h with
  | null =>
    intro fuel rest hfuel _
    obtain ⟨fuel, rfl⟩ := exists_fuel hfuel
    exact takes_null rest
  | bool b =>
    intro fuel rest hfuel _
    obtain ⟨fuel, rfl⟩ := exists_fuel hfuel
    cases b with
    | true => exact takes_true rest
    | false => exact takes_false rest
  | int hn =>
    intro fuel rest hfuel hrest
    obtain ⟨fuel, rfl⟩ := exists_fuel hfuel
    exact takes_number (startsNumber_int _) (takes_int hn hrest)
  | float x => exact readsBack_float style x
  | str s => exact readsBack_str style s
  | arr _ ih => exact readsBack_arr hgap ih
  | obj hnames _ ih => exact readsBack_obj hgap hnames ih

/-- The text of a value is read as the value, whichever blanks are put into it. -/
theorem parse_writeIn (hgap : ∀ c ∈ style.gap.toList, isBlank c = true) (h : j.Readable) :
    parse (j.writeIn style) = .ok j := by
  have hvalue : Takes (readValue (2 * ((j.writeIn style).toList ++ []).length + 2))
      (j.writeIn style).toList [] j :=
    h.readsBack hgap (by rw [List.append_nil]; omega) (startsWithout_nil _)
  have hread : Takes readText (j.writeIn style).toList [] j := by
    refine ((opens_writeIn style j).takes_no_blanks []).bind_nil (.bind_get fun pos => ?_)
    refine hvalue.bind_pure ?_
    refine (takes_blanks_nil (startsWithout_nil _)).bind_nil ?_
    exact .bind_get fun pos => .pure j []
  have hrun := hread 0
  rw [List.append_nil] at hrun
  rw [parse, hrun]
  rfl

theorem parse_write (h : j.Readable) : parse j.write = .ok j :=
  parse_writeIn (by simp [Style.compact]) h

end Values

end CodeTwins.Json
