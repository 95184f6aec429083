import CodeTwins.Proofs.Toml.Values

/-!
# Documents in sections

A document that consists of headings with settings below them is read section by section. What is
read of a part does not depend on what follows it, so parts are put together.
-/
namespace CodeTwins.Toml

/-! ## Keys -/

section Keys

variable {name : String} {k : Key} {rest : List Char}

/-- A name that stands in a key without quotes. -/
structure IsBare (name : String) : Prop where
  ne_nil : name.toList ≠ []
  bare : ∀ c ∈ name.toList, isBareKeyChar c = true

instance (name : String) : Decidable (IsBare name) :=
  decidable_of_iff (name.toList ≠ [] ∧ name.toList.all isBareKeyChar = true)
    ⟨fun h => ⟨h.1, List.all_eq_true.mp h.2⟩, fun h => ⟨h.1, List.all_eq_true.mpr h.2⟩⟩

private theorem keyPart_bare (hname : IsBare name) {c : Char} (hc : isBareKeyChar c = false)
    (rest : List Char) : keyPart (name.toList ++ c :: rest) = some (name, c :: rest) := by
  have htake : (name.toList ++ c :: rest).takeWhile isBareKeyChar = name.toList := by
    rw [List.takeWhile_append_of_pos hname.bare, List.takeWhile_cons_of_neg (by simp [hc]),
      List.append_nil]
  have hdrop : (name.toList ++ c :: rest).dropWhile isBareKeyChar = c :: rest := by
    rw [List.dropWhile_append_of_pos hname.bare, List.dropWhile_cons_of_neg (by simp [hc])]
  obtain ⟨d, ds, hds⟩ := List.exists_cons_of_ne_nil hname.ne_nil
  have hd : isBareKeyChar d = true := hname.bare d (by simp [hds])
  unfold keyPart
  split
  case h_1 cs heq =>
    rw [hds, List.cons_append, List.cons.injEq] at heq
    exact absurd (heq.1 ▸ hd) (by decide)
  case h_2 cs heq =>
    rw [hds, List.cons_append, List.cons.injEq] at heq
    exact absurd (heq.1 ▸ hd) (by decide)
  case h_3 =>
    simp only [htake, hdrop]
    rw [if_neg (by simp [hds]), String.ofList_toList]

/-- Names with points between them. -/
def keyText (name : String) : Key → List Char
  | [] => name.toList
  | next :: more => name.toList ++ '.' :: keyText next more

private theorem exists_keyText (hname : IsBare name) (more : Key) :
    ∃ c cs, keyText name more = c :: cs ∧ isBareKeyChar c = true := by
  obtain ⟨c, cs, hcs⟩ := List.exists_cons_of_ne_nil hname.ne_nil
  have hc : isBareKeyChar c = true := hname.bare c (by simp [hcs])
  cases more with
  | nil => exact ⟨c, cs, hcs, hc⟩
  | cons next more => exact ⟨c, _, by rw [keyText, hcs, List.cons_append], hc⟩

private theorem length_le_keyText (name : String) (more : Key) :
    more.length ≤ (keyText name more).length := by
  induction more generalizing name with
  | nil => exact Nat.zero_le _
  | cons next more ih =>
    have hmore := ih next
    simp only [keyText, List.length_cons, List.length_append]
    omega

private theorem isBlank_of_bare {c : Char} (hc : isBareKeyChar c = true) : isBlank c = false := by
  by_contra hblank
  simp only [isBlank, Bool.or_eq_true, decide_eq_true_iff, Bool.not_eq_false] at hblank
  rcases hblank with rfl | rfl <;> exact absurd hc (by decide)

private theorem IsBare.return_not_mem (hname : IsBare name) : '\r' ∉ name.toList := fun h =>
  absurd (hname.bare _ h) (by decide)

private theorem return_not_mem_keyText (hname : IsBare name) {more : Key}
    (hmore : ∀ name ∈ more, IsBare name) : '\r' ∉ keyText name more := by
  induction more generalizing name with
  | nil => exact hname.return_not_mem
  | cons next more ih =>
    obtain ⟨hnext, hmore⟩ := List.forall_mem_cons.mp hmore
    simp only [keyText, List.mem_append, List.mem_cons, not_or]
    exact ⟨hname.return_not_mem, by decide, ih hnext hmore⟩

/-- A written key is read up to a character that ends it. -/
theorem key_keyText (hname : IsBare name) {more : Key} (hmore : ∀ name ∈ more, IsBare name)
    {c d : Char} {after : List Char} (hc : isBareKeyChar c = false)
    (hafter : (c :: rest).dropWhile isBlank = d :: after) (hd : d ≠ '.') {fuel : Nat}
    (hfuel : more.length < fuel) :
    key fuel (keyText name more ++ c :: rest) = some (name :: more, d :: after) := by
  induction more generalizing name fuel with
  | nil =>
    obtain ⟨fuel, rfl⟩ : ∃ n, fuel = n + 1 := ⟨fuel - 1, by omega⟩
    rw [keyText, key, keyPart_bare hname hc]
    simp only [hafter]
    split
    case h_1 heq => exact absurd (List.cons.inj heq).1 hd
    case h_2 => rfl
  | cons next more ih =>
    obtain ⟨hnext, hmore⟩ := List.forall_mem_cons.mp hmore
    obtain ⟨fuel, rfl⟩ : ∃ n, fuel = n + 1 := ⟨fuel - 1, by omega⟩
    have hothers := ih hnext hmore (by simpa using hfuel)
    obtain ⟨e, es, htext, he⟩ := exists_keyText hnext more
    have hpoint : ('.' :: (keyText next more ++ c :: rest)).dropWhile isBlank =
        '.' :: (keyText next more ++ c :: rest) := rfl
    have hdrop : (keyText next more ++ c :: rest).dropWhile isBlank =
        keyText next more ++ c :: rest := by
      rw [htext, List.cons_append, List.dropWhile_cons_of_neg (by simp [isBlank_of_bare he])]
    rw [keyText, List.append_assoc, List.cons_append, key, keyPart_bare hname (by decide)]
    simp only [hpoint, hdrop, hothers]
    rfl

end Keys

/-! ## Lines -/

section Lines

variable {d d' d'' : Draft} {text more : List Char}

/-- A part of a document takes a draft to another, whatever follows the part. -/
structure Reads (text : List Char) (d d' : Draft) : Prop where
  plain : '\r' ∉ text
  lines : ∀ fuel rest, 2 * (text ++ rest).length + 2 ≤ fuel →
    ∃ fuel', 2 * rest.length + 2 ≤ fuel' ∧ d.lines fuel (text ++ rest) = d'.lines fuel' rest

theorem Reads.append (h : Reads text d d') (hmore : Reads more d' d'') :
    Reads (text ++ more) d d'' := by
  refine ⟨fun hmem => (List.mem_append.mp hmem).elim h.plain hmore.plain, fun fuel rest hfuel => ?_⟩
  obtain ⟨fuel', hfuel', hlines⟩ := h.lines fuel (more ++ rest) (by rwa [← List.append_assoc])
  obtain ⟨fuel'', hfuel'', hlines'⟩ := hmore.lines fuel' rest hfuel'
  exact ⟨fuel'', hfuel'', by rw [List.append_assoc, hlines, hlines']⟩

private theorem reads_nil (d : Draft) : Reads [] d d :=
  ⟨List.not_mem_nil, fun fuel _ hfuel => ⟨fuel, hfuel, rfl⟩⟩

theorem reads_blank (d : Draft) : Reads ['\n'] d d := by
  refine ⟨by decide, fun fuel rest hfuel => ?_⟩
  obtain ⟨fuel, rfl⟩ : ∃ n, fuel = n + 1 := ⟨fuel - 1, by omega⟩
  exact ⟨fuel, by simp at hfuel; omega, rfl⟩

/-- A statement on a line of its own. -/
theorem reads_statement {c : Char} {cs : List Char} (hblank : isBlank c = false) (hline : c ≠ '\n')
    (hplain : '\r' ∉ c :: cs)
    (hread : ∀ fuel rest, (c :: cs).length + 1 ≤ fuel →
      d.statement fuel (c :: cs ++ '\n' :: rest) = some (d', '\n' :: rest)) :
    Reads (c :: cs ++ ['\n']) d d' := by
  refine ⟨by simpa using hplain, fun fuel rest hfuel => ?_⟩
  obtain ⟨fuel, rfl⟩ : ∃ n, fuel = n + 1 := ⟨fuel - 1, by omega⟩
  simp only [List.length_append, List.length_cons, List.length_nil] at hfuel
  refine ⟨fuel, by omega, ?_⟩
  have hstatement := hread fuel rest (by simp only [List.length_cons]; omega)
  have hdrop : (c :: cs ++ '\n' :: rest).dropWhile isBlank = c :: cs ++ '\n' :: rest :=
    List.dropWhile_cons_of_neg (by simp [hblank])
  rw [List.append_assoc, List.singleton_append, Draft.lines, hdrop]
  split
  case h_1 heq => cases heq
  case h_2 heq => exact absurd (List.cons.inj heq).1 hline
  case h_3 =>
    rw [hstatement]
    rfl

/-- The line that opens a table. -/
def headingLine (name : String) (more : Key) : List Char :=
  '[' :: (keyText name more ++ [']', '\n'])

private theorem reads_headingLine {name : String} {more : Key} (hname : IsBare name)
    (hmore : ∀ name ∈ more, IsBare name)
    (hopen : d.turn.openTable (name :: more) = some d') :
    Reads (headingLine name more) d d' := by
  have hline : headingLine name more = '[' :: (keyText name more ++ [']']) ++ ['\n'] := by
    simp [headingLine]
  have hplain : '\r' ∉ '[' :: (keyText name more ++ [']']) := by
    simp only [List.mem_cons, List.mem_append, List.not_mem_nil, or_false, not_or]
    exact ⟨by decide, return_not_mem_keyText hname hmore, by decide⟩
  rw [hline]
  refine reads_statement (by decide) (by decide) hplain fun fuel rest hfuel => ?_
  obtain ⟨c, cs, htext, hc⟩ := exists_keyText hname more
  have hlength := length_le_keyText name more
  have henough : more.length < fuel := by
    simp only [List.length_cons, List.length_append, List.length_nil] at hfuel
    omega
  have hkey : key fuel (keyText name more ++ ']' :: '\n' :: rest) =
      some (name :: more, ']' :: '\n' :: rest) :=
    key_keyText hname hmore (by decide) rfl (by decide) henough
  have hdrop : (keyText name more ++ ']' :: '\n' :: rest).dropWhile isBlank =
      keyText name more ++ ']' :: '\n' :: rest := by
    rw [htext, List.cons_append, List.dropWhile_cons_of_neg (by simp [isBlank_of_bare hc])]
  have hchars : '[' :: (keyText name more ++ [']']) ++ '\n' :: rest =
      '[' :: (keyText name more ++ ']' :: '\n' :: rest) := by simp
  rw [hchars]
  unfold Draft.statement
  split
  case h_1 heq =>
    -- a second bracket would have to start the key
    rw [htext, List.cons.injEq, List.cons_append, List.cons.injEq] at heq
    exact absurd (heq.2.1 ▸ hc) (by decide)
  case h_2 heq =>
    cases heq
    simp only [hdrop, hkey, hopen]
    rfl
  case h_3 heq => exact absurd (List.cons.inj heq).1 (by decide)
  case h_4 _ hother _ => exact absurd rfl (hother _)

/-- A field with the text of its value. -/
structure Setting where
  name : String
  text : List Char
  value : Value

/-- The line that sets a field. -/
def Setting.line (s : Setting) : List Char :=
  s.name.toList ++ ([' ', '=', ' '] ++ (s.text ++ ['\n']))

/-- The name stands without quotes, and the text is that of the value. -/
structure Setting.Plain (s : Setting) : Prop where
  bare : IsBare s.name
  spells : Spells s.text s.value

private theorem reads_line {s : Setting} (hs : s.Plain) (hset : d.set [s.name] s.value = some d') :
    Reads s.line d d' := by
  obtain ⟨c, cs, hname⟩ := List.exists_cons_of_ne_nil hs.bare.ne_nil
  obtain ⟨e, es, htext, he⟩ := hs.spells.opens
  have hc : isBareKeyChar c = true := hs.bare.bare c (by simp [hname])
  have hline : s.line = c :: (cs ++ ([' ', '=', ' '] ++ s.text)) ++ ['\n'] := by
    simp [Setting.line, hname]
  have hplain : '\r' ∉ c :: (cs ++ ([' ', '=', ' '] ++ s.text)) := by
    rw [← List.cons_append, ← hname]
    simp only [List.mem_append, not_or]
    exact ⟨hs.bare.return_not_mem, by decide, hs.spells.plain⟩
  rw [hline]
  refine reads_statement (isBlank_of_bare hc) ?_ hplain fun fuel rest hfuel => ?_
  · rintro rfl
    exact absurd hc (by decide)
  obtain ⟨fuel, rfl⟩ : ∃ n, fuel = n + 2 :=
    ⟨fuel - 2, by simp only [List.length_cons, List.length_append] at hfuel; omega⟩
  have henough : s.text.length ≤ fuel + 1 := by
    simp only [List.length_cons, List.length_append] at hfuel
    omega
  have hkey : key (fuel + 1) (keyText s.name [] ++ ' ' :: '=' :: ' ' ::
      (s.text ++ '\n' :: rest)) = some ([s.name], '=' :: ' ' :: (s.text ++ '\n' :: rest)) :=
    key_keyText hs.bare (by simp) (by decide) rfl (by decide) (Nat.succ_pos fuel)
  rw [keyText] at hkey
  have hdrop : (' ' :: (s.text ++ '\n' :: rest)).dropWhile isBlank = s.text ++ '\n' :: rest := by
    rw [htext, List.dropWhile_cons_of_pos (by decide), List.cons_append,
      List.dropWhile_cons_of_neg (by simp [he])]
  have hchars : c :: (cs ++ ([' ', '=', ' '] ++ s.text)) ++ '\n' :: rest =
      s.name.toList ++ ' ' :: '=' :: ' ' :: (s.text ++ '\n' :: rest) := by simp [hname]
  have hkeyValue : keyValue (fuel + 2) (s.name.toList ++ ' ' :: '=' :: ' ' ::
      (s.text ++ '\n' :: rest)) = some (([s.name], s.value), '\n' :: rest) := by
    rw [keyValue, hkey]
    simp only [hdrop, hs.spells.reads _ _ henough]
    rfl
  have hfirst : ∀ x more, isBareKeyChar x = false →
      s.name.toList ++ ' ' :: '=' :: ' ' :: (s.text ++ '\n' :: rest) ≠ x :: more := by
    rintro x more hx heq
    rw [hname, List.cons_append, List.cons.injEq] at heq
    exact absurd (heq.1 ▸ hc) (by simp [hx])
  rw [hchars]
  unfold Draft.statement
  split
  case h_1 heq => exact absurd heq (hfirst _ _ (by decide))
  case h_2 heq => exact absurd heq (hfirst _ _ (by decide))
  case h_3 heq => exact absurd heq (hfirst _ _ (by decide))
  case h_4 =>
    rw [hkeyValue]
    simp only [hset]
    rfl

end Lines

/-! ## Tables -/

section Tables

variable {fields : Fields} {name : String}

private theorem setField_of_none (h : field? name fields = none) (v : Value) :
    setField name v fields = fields ++ [(name, v)] := by
  induction fields with
  | nil => rfl
  | cons entry fields ih =>
    obtain ⟨other, w⟩ := entry
    rw [field?] at h
    split at h
    case isTrue => cases h
    case isFalse hne => rw [setField, if_neg hne, ih h, List.cons_append]

private theorem field?_append (h : field? name fields = none) (more : Fields) :
    field? name (fields ++ more) = field? name more := by
  induction fields with
  | nil => rfl
  | cons entry fields ih =>
    obtain ⟨other, w⟩ := entry
    rw [field?] at h
    split at h
    case isTrue => cases h
    case isFalse hne => rw [List.cons_append, field?, if_neg hne, ih h]

private theorem setField_append (h : field? name fields = none) (v w : Value) :
    setField name v (fields ++ [(name, w)]) = fields ++ [(name, v)] := by
  induction fields with
  | nil => simp [setField]
  | cons entry fields ih =>
    obtain ⟨other, u⟩ := entry
    rw [field?] at h
    split at h
    case isTrue => cases h
    case isFalse hne => rw [List.cons_append, setField, if_neg hne, ih h, List.cons_append]

/-- A table that is not there is made after the other fields. -/
theorem updateTable_of_none (h : field? name fields = none) (change : Fields → Option Fields)
    (k : Key) :
    updateTable true change (name :: k) fields =
      (updateTable true change k []).map fun t => fields ++ [(name, .table t)] := by
  rw [updateTable]
  simp only [h, setField_of_none h]

/-- The table after the other fields is changed in its place. -/
theorem updateTable_last (h : field? name fields = none) (change : Fields → Option Fields) (k : Key)
    (t : Fields) :
    updateTable true change (name :: k) (fields ++ [(name, .table t)]) =
      (updateTable true change k t).map fun t => fields ++ [(name, .table t)] := by
  rw [updateTable]
  have hfound : field? name (fields ++ [(name, .table t)]) = some (.table t) := by
    rw [field?_append h, field?, if_pos rfl]
  simp only [hfound, setField_append h]

private theorem field?_eq_none_iff : field? name fields = none ↔ name ∉ fields.map (·.1) := by
  induction fields with
  | nil => simp [field?]
  | cons entry fields ih =>
    obtain ⟨other, v⟩ := entry
    rw [field?, List.map_cons, List.mem_cons, not_or]
    by_cases h : other = name
    · simp [h]
    · rw [if_neg h, ih]
      exact ⟨fun hfields => ⟨Ne.symm h, hfields⟩, And.right⟩

end Tables

/-! ## Sections -/

section Sections

variable {d d' : Draft} {put : Fields → Fields} {fields : Fields} {opened closed : List Key}

private theorem reaches_eq_false_iff {keys : List Key} {k : Key} :
    reaches keys k = false ↔ ∀ key ∈ keys, ¬ key <+: k := by
  simp [reaches]

/-- The draft is within a table that holds some fields: the document is made from those of the
table, and is changed by a change to them. -/
structure Draft.Within (d : Draft) (put : Fields → Fields) (fields : Fields) : Prop where
  fields_eq : d.fields = put fields
  update : ∀ change fs, updateTable true change d.heading (put fs) = (change fs).map put
  free : reaches d.closed d.heading = false

/-- The draft with one more field in the present table. -/
def Draft.extended (d : Draft) (fields : Fields) (name : String) (v : Value) : Draft :=
  { d with fields, closed := if isNest v then (d.heading ++ [name]) :: d.closed else d.closed }

private theorem set_of_within (hd : d.Within put fields) {name : String}
    (hnew : field? name fields = none) (v : Value) :
    d.set [name] v = some (d.extended (put (fields ++ [(name, v)])) name v) := by
  have hadd : updateTable true (addField name v) d.heading d.fields =
      some (put (fields ++ [(name, v)])) := by
    rw [hd.fields_eq, hd.update, addField, hnew]
    rfl
  have hway : Draft.tablesTo d.heading [name] = [] := rfl
  unfold Draft.set
  simp only [hway, List.dropLast_singleton, List.append_nil, List.any_nil, hd.free,
    Bool.or_self, Bool.false_eq_true, if_false]
  change (updateTable true (addField name v) d.heading d.fields).map _ = _
  rw [hadd]
  rfl

private theorem within_extended (hd : d.Within put fields) (name : String) (v : Value) :
    (d.extended (put (fields ++ [(name, v)])) name v).Within put (fields ++ [(name, v)]) where
  fields_eq := rfl
  update := hd.update
  free := by
    have hfree := reaches_eq_false_iff.mp hd.free
    refine reaches_eq_false_iff.mpr fun key hkey => ?_
    have hcases : key = d.heading ++ [name] ∨ key ∈ d.closed := by
      simp only [Draft.extended] at hkey
      split at hkey
      · exact List.mem_cons.mp hkey
      · exact .inr hkey
    rcases hcases with rfl | hold
    · intro hprefix
      have hlength : (d.heading ++ [name]).length ≤ d.heading.length := hprefix.length_le
      rw [List.length_append, List.length_singleton] at hlength
      omega
    · exact hfree key hold

/-- What has been read up to the end of a section: the fields, the tables that have been opened, and
what at most cannot be added to. -/
structure Draft.Holds (d : Draft) (fields : Fields) (opened closed : List Key) : Prop where
  fields_eq : d.fields = fields
  opened_eq : d.opened = opened
  passed_eq : d.passed = []
  closed : ∀ k ∈ d.closed, k ∈ closed

/-- The field that a setting sets. -/
def Setting.field (s : Setting) : String × Value :=
  (s.name, s.value)

/-- Settings extend the present table one after another. -/
theorem reads_settings {ss : List Setting} (hss : ∀ s ∈ ss, s.Plain)
    (hnodup : (fields.map (·.1) ++ ss.map (·.name)).Nodup) (hd : d.Within put fields)
    (hholds : d.Holds (put fields) opened closed) :
    ∃ d', Reads (ss.flatMap Setting.line) d d' ∧ d'.Holds (put (fields ++ ss.map Setting.field))
      opened (ss.map (d.heading ++ [·.name]) ++ closed) := by
  induction ss generalizing d fields closed with
  | nil => exact ⟨d, reads_nil d, by simpa using hholds⟩
  | cons s ss ih =>
    obtain ⟨hs, hss⟩ := List.forall_mem_cons.mp hss
    have hnew : field? s.name fields = none := by
      rw [field?_eq_none_iff]
      intro hmem
      exact (List.nodup_append.mp hnodup).2.2 _ hmem _ (by simp) rfl
    have hfirst := reads_line hs (set_of_within hd hnew s.value)
    have hnodup' : ((fields ++ [s.field]).map (·.1) ++ ss.map (·.name)).Nodup := by
      simpa [Setting.field] using hnodup
    have hholds' : (d.extended (put (fields ++ [s.field])) s.name s.value).Holds
        (put (fields ++ [s.field])) opened ((d.heading ++ [s.name]) :: closed) := by
      refine ⟨rfl, hholds.opened_eq, hholds.passed_eq, fun k hk => ?_⟩
      simp only [Draft.extended] at hk
      split at hk
      · rcases List.mem_cons.mp hk with rfl | hold
        · exact List.mem_cons_self
        · exact .tail _ (hholds.closed k hold)
      · exact .tail _ (hholds.closed k hk)
    obtain ⟨d', hrest, hd'⟩ := ih hss hnodup' (within_extended hd s.name s.value) hholds'
    rw [List.append_assoc] at hd'
    refine ⟨d', hfirst.append hrest, hd'.fields_eq, hd'.opened_eq, hd'.passed_eq, fun k hk => ?_⟩
    have hmem := hd'.closed k hk
    simp only [List.mem_append, List.mem_cons, List.map_cons, List.cons_append] at hmem ⊢
    rcases hmem with hlater | hthis | hold
    · exact .inr (.inl hlater)
    · exact .inl hthis
    · exact .inr (.inr hold)

/-- A section adds a table that is not there yet, with its settings as fields. -/
theorem reads_section {name : String} {more : Key} (hname : IsBare name)
    (hmore : ∀ name ∈ more, IsBare name) {ss : List Setting} (hss : ∀ s ∈ ss, s.Plain)
    (hnodup : (ss.map (·.name)).Nodup) (hd : d.Holds fields opened closed)
    (hnew : name :: more ∉ opened) (hfree : reaches closed (name :: more) = false)
    (hmake : updateTable true some (name :: more) fields = some (put []))
    (hupdate : ∀ change fs,
      updateTable true change (name :: more) (put fs) = (change fs).map put) :
    ∃ d', Reads (headingLine name more ++ ss.flatMap Setting.line) d d' ∧
      d'.Holds (put (ss.map Setting.field)) ((name :: more) :: opened)
        (ss.map (name :: more ++ [·.name]) ++ closed) := by
  have hclosed : reaches d.closed (name :: more) = false :=
    reaches_eq_false_iff.mpr fun key hkey =>
      reaches_eq_false_iff.mp hfree key (hd.closed key hkey)
  let d₁ : Draft :=
    { d with
      fields := put []
      opened := (name :: more) :: opened
      passed := []
      heading := name :: more }
  have hopen : d.turn.openTable (name :: more) = some d₁ := by
    unfold Draft.openTable Draft.turn
    simp only [hd.passed_eq, hd.opened_eq, hd.fields_eq, hclosed, hmake, List.nil_append,
      Bool.or_false]
    rw [if_neg (by simpa using hnew)]
    rfl
  have hwithin : d₁.Within put [] := ⟨rfl, hupdate, hclosed⟩
  obtain ⟨d', hrest, hd'⟩ := reads_settings hss (by simpa using hnodup) hwithin
    (show d₁.Holds (put []) ((name :: more) :: opened) closed from ⟨rfl, rfl, rfl, hd.closed⟩)
  exact ⟨d', (reads_headingLine hname hmore hopen).append hrest, hd'⟩

/-- A section for a table of the document itself. -/
theorem reads_table {name : String} (hname : IsBare name) {ss : List Setting}
    (hss : ∀ s ∈ ss, s.Plain) (hnodup : (ss.map (·.name)).Nodup) (hd : d.Holds fields opened closed)
    (hnew : [name] ∉ opened) (hfree : reaches closed [name] = false)
    (hnone : field? name fields = none) :
    ∃ d', Reads (headingLine name [] ++ ss.flatMap Setting.line) d d' ∧
      d'.Holds (fields ++ [(name, .table (ss.map Setting.field))]) ([name] :: opened)
        (ss.map (fun s => [name, s.name]) ++ closed) := by
  let put : Fields → Fields := fun fs => fields ++ [(name, .table fs)]
  have hmake : updateTable true some [name] fields = some (put []) :=
    updateTable_of_none hnone some []
  have hupdate : ∀ change fs, updateTable true change [name] (put fs) = (change fs).map put :=
    fun change fs => updateTable_last hnone change [] fs
  exact reads_section hname (by simp) hss hnodup hd hnew hfree hmake hupdate

/-- A section for a table within the last table of the document. -/
theorem reads_subtable {outer name : String} (houter : IsBare outer) (hname : IsBare name)
    {ss : List Setting} (hss : ∀ s ∈ ss, s.Plain) (hnodup : (ss.map (·.name)).Nodup)
    {inner : Fields} (hd : d.Holds (fields ++ [(outer, .table inner)]) opened closed)
    (hnew : [outer, name] ∉ opened) (hfree : reaches closed [outer, name] = false)
    (hfields : field? outer fields = none) (hnone : field? name inner = none) :
    ∃ d', Reads (headingLine outer [name] ++ ss.flatMap Setting.line) d d' ∧
      d'.Holds (fields ++ [(outer, .table (inner ++ [(name, .table (ss.map Setting.field))]))])
        ([outer, name] :: opened) (ss.map (fun s => [outer, name, s.name]) ++ closed) := by
  let put : Fields → Fields := fun fs => fields ++ [(outer, .table (inner ++ [(name, .table fs)]))]
  have hmake : updateTable true some [outer, name] (fields ++ [(outer, .table inner)]) =
      some (put []) := by
    rw [updateTable_last hfields, updateTable_of_none hnone]
    rfl
  have hupdate : ∀ change fs, updateTable true change [outer, name] (put fs) =
      (change fs).map put := by
    intro change fs
    rw [updateTable_last hfields, updateTable_last hnone, Option.map_map]
    rfl
  exact reads_section houter (by simpa using hname) hss hnodup hd hnew hfree hmake hupdate

private theorem plainNewlines_of_not_mem {text : List Char} (h : '\r' ∉ text) :
    plainNewlines text = text := by
  induction text with
  | nil => rfl
  | cons c cs ih =>
    rw [List.mem_cons, not_or] at h
    rw [plainNewlines, ih h.2]
    rintro rest rfl
    exact absurd rfl h.1

/-- A document that is read from the start to the end gives its fields. -/
theorem read_of_reads {text : List Char} (h : Reads text {} d) : read text = some d.fields := by
  obtain ⟨fuel, hfuel, hlines⟩ := h.lines (2 * text.length + 2) [] (by simp)
  obtain ⟨fuel, rfl⟩ : ∃ n, fuel = n + 1 := ⟨fuel - 1, by omega⟩
  rw [List.append_nil] at hlines
  rw [read, plainNewlines_of_not_mem h.plain, hlines]
  rfl

end Sections

end CodeTwins.Toml
