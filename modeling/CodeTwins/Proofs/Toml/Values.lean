import CodeTwins.Config.Starter
import Mathlib.Data.List.Basic

/-!
# Values of written documents

A text, a list of texts or a number that has been written into a document is read as it was. A text
is written in one of two ways, and each has its own reader.
-/
namespace CodeTwins.Toml

open ScanConfig (escapeChar writeText writeList writeLongList)

/-- No control character of ASCII is in the text, but for tabs and newlines. -/
def Clean (s : String) : Prop :=
  ∀ c ∈ s.toList, isControl c = true → c = '\n'

instance (s : String) : Decidable (Clean s) :=
  List.decidableBAll _ _

section Strings

variable {cs rest : List Char} {s : String}

private theorem literal_append (hcs : ∀ c ∈ cs, c ≠ '\'' ∧ isControl c = false) (rest : List Char) :
    literal (cs ++ '\'' :: rest) = some (cs, rest) := by
  induction cs with
  | nil => rfl
  | cons c cs ih =>
    obtain ⟨⟨hquote, hcontrol⟩, hcs⟩ := List.forall_mem_cons.mp hcs
    rw [List.cons_append, literal, if_neg hquote, if_neg (by simp [hcontrol]), ih hcs]
    rfl

private theorem basic_escape {e x : Char} (h : escape? e = some x) (cs : List Char) :
    basic ('\\' :: e :: cs) = push x (basic cs) := by
  rw [basic, h]
  · rfl
  · rintro a b c d cs rfl
    cases h
  · rintro a b c d e f g i cs rfl
    cases h

private theorem basic_plain {c : Char} (hquote : c ≠ '"') (hslash : c ≠ '\\')
    (hcontrol : isControl c = false) (cs : List Char) :
    basic (c :: cs) = push c (basic cs) := by
  rw [basic, if_neg (by simp [hslash, hcontrol])]
  all_goals simp [hquote, hslash]

private theorem basic_escapeChar {c : Char} (hc : isControl c = true → c = '\n') (cs : List Char) :
    basic (escapeChar c ++ cs) = push c (basic cs) := by
  by_cases hslash : c = '\\'
  · subst hslash
    exact basic_escape rfl cs
  by_cases hquote : c = '"'
  · subst hquote
    exact basic_escape rfl cs
  by_cases hline : c = '\n'
  · subst hline
    exact basic_escape rfl cs
  have hcontrol : isControl c = false := by simpa using mt hc hline
  have hescape : escapeChar c = [c] := by
    unfold escapeChar
    split <;> trivial
  rw [hescape]
  exact basic_plain hquote hslash hcontrol cs

/-- An escaped text is read as it was. -/
theorem basic_escaped (hcs : ∀ c ∈ cs, isControl c = true → c = '\n') (rest : List Char) :
    basic (cs.flatMap escapeChar ++ '"' :: rest) = some (cs, rest) := by
  induction cs with
  | nil => rfl
  | cons c cs ih =>
    obtain ⟨hc, hcs⟩ := List.forall_mem_cons.mp hcs
    rw [List.flatMap_cons, List.append_assoc, basic_escapeChar hc, ih hcs]
    rfl

private theorem escapeChar_ne (c : Char) (cs rest : List Char) :
    escapeChar c ++ cs ≠ '"' :: rest := by
  unfold escapeChar
  split <;> simp_all

private theorem string_literal (h : ∀ rest, cs ≠ '\'' :: '\'' :: rest) :
    string ('\'' :: cs) = literal cs := by
  unfold string
  split <;> simp_all

private theorem string_basic (h : ∀ rest, cs ≠ '"' :: '"' :: rest) :
    string ('"' :: cs) = basic cs := by
  unfold string
  split <;> simp_all

/-- The text can stand between single quotes as it is. -/
def IsLiteral (s : String) : Prop :=
  '\'' ∉ s.toList ∧ '\n' ∉ s.toList

instance (s : String) : Decidable (IsLiteral s) :=
  inferInstanceAs (Decidable (_ ∧ _))

private theorem toList_writeText (s : String) :
    (writeText s).toList =
      if IsLiteral s then '\'' :: (s.toList ++ ['\''])
      else '"' :: (s.toList.flatMap escapeChar ++ ['"']) := by
  have hcondition : (!s.toList.contains '\'' && !s.toList.contains '\n') = true ↔ IsLiteral s := by
    simp [IsLiteral]
  simp only [writeText, hcondition]
  split <;> simp [String.toList_append]

/-- A quote does not follow. -/
def NoQuote (rest : List Char) : Prop :=
  rest.head? ≠ some '\''

private theorem string_writeText (hs : Clean s) (hrest : NoQuote rest) :
    string ((writeText s).toList ++ rest) = some (s.toList, rest) := by
  rw [toList_writeText]
  split
  case isTrue h =>
    have hfirst : ∀ more, s.toList ++ '\'' :: rest ≠ '\'' :: '\'' :: more := by
      intro more heq
      cases hcs : s.toList with
      | nil =>
        rw [hcs, List.nil_append, List.cons.injEq] at heq
        exact hrest (by rw [heq.2]; rfl)
      | cons c cs =>
        rw [hcs, List.cons_append, List.cons.injEq] at heq
        exact h.1 (by rw [hcs, heq.1]; exact List.mem_cons_self)
    rw [List.cons_append, List.append_assoc, List.singleton_append, string_literal hfirst]
    refine literal_append (fun c hc => ⟨fun hquote => h.1 (hquote ▸ hc), ?_⟩) rest
    by_contra hcontrol
    exact h.2 (hs c hc (by simpa using hcontrol) ▸ hc)
  case isFalse h =>
    have hfirst : ∀ more, s.toList.flatMap escapeChar ++ '"' :: rest ≠ '"' :: '"' :: more := by
      intro more heq
      cases hcs : s.toList with
      | nil => exact h (by simp [IsLiteral, hcs])
      | cons c cs =>
        rw [hcs, List.flatMap_cons, List.append_assoc] at heq
        exact escapeChar_ne _ _ _ heq
    rw [List.cons_append, List.append_assoc, List.singleton_append, string_basic hfirst]
    exact basic_escaped hs rest

/-- A written text starts with a quote. -/
theorem exists_quote (s : String) :
    ∃ quote cs, (writeText s).toList = quote :: cs ∧ (quote = '\'' ∨ quote = '"') := by
  rw [toList_writeText]
  split
  · exact ⟨_, _, rfl, .inl rfl⟩
  · exact ⟨_, _, rfl, .inr rfl⟩

private theorem return_not_mem_writeText (hs : Clean s) : '\r' ∉ (writeText s).toList := by
  have htext : '\r' ∉ s.toList := fun h => absurd (hs _ h (by decide)) (by decide)
  have hescaped : '\r' ∉ s.toList.flatMap escapeChar := by
    simp only [List.mem_flatMap, not_exists, not_and]
    intro c hc hmem
    unfold escapeChar at hmem
    split at hmem
    all_goals simp at hmem
    exact htext (hmem ▸ hc)
  rw [toList_writeText]
  split
  · simpa using htext
  · simpa using hescaped

/-- A text that has been written is read as it was, if no quote follows. -/
theorem value_writeText (hs : Clean s) (hrest : NoQuote rest) (fuel : Nat) :
    value (fuel + 1) ((writeText s).toList ++ rest) = some (.str s, rest) := by
  have hstring := string_writeText hs hrest
  obtain ⟨quote, cs, htext, rfl | rfl⟩ := exists_quote s
  all_goals
    rw [htext, List.cons_append] at hstring ⊢
    rw [value, hstring]
    simp

end Strings

/-! ## Lists -/

section Lists

variable {gap close rest : List Char} {l : List String}

/-- White space between items. -/
def IsGap (cs : List Char) : Prop :=
  ∀ c ∈ cs, isBlank c = true ∨ c = '\n'

/-- Items that are written in a row, with a gap after each comma and one before the end. -/
def itemsText (gap close : List Char) : List String → List Char
  | [] => close ++ [']']
  | [s] => (writeText s).toList ++ (close ++ [']'])
  | s :: t :: more => (writeText s).toList ++ ',' :: (gap ++ itemsText gap close (t :: more))

/-- What is no white space and no comment is not skipped. -/
theorem skipSpace_gap (hgap : IsGap gap) {c : Char} (hc : isBlank c = false) (hline : c ≠ '\n')
    (hcomment : c ≠ '#') (rest : List Char) (fuel : Nat) :
    skipSpace (fuel + 1) (gap ++ c :: rest) = some (c :: rest) := by
  have hspace : ∀ d ∈ gap, (isBlank d || decide (d = '\n')) = true := fun d hd => by
    simpa using hgap d hd
  have hstop : (isBlank c || decide (c = '\n')) = false := by simp [hc, hline]
  have hdrop : (gap ++ c :: rest).dropWhile (fun c => isBlank c || c = '\n') = c :: rest := by
    rw [List.dropWhile_append_of_pos hspace, List.dropWhile_cons_of_neg (by simp [hstop])]
  rw [skipSpace, hdrop]
  split
  case h_1 heq => exact absurd (List.cons.inj heq).1 hcomment
  case h_2 => rfl

private theorem skipSpace_writeText (hgap : IsGap gap) (s : String) (rest : List Char) (fuel : Nat) :
    skipSpace (fuel + 1) (gap ++ ((writeText s).toList ++ rest)) =
      some ((writeText s).toList ++ rest) := by
  obtain ⟨quote, cs, htext, rfl | rfl⟩ := exists_quote s
  all_goals
    rw [htext]
    exact skipSpace_gap hgap (by decide) (by decide) (by decide) _ fuel

private theorem noQuote_gap (hgap : IsGap gap) {c : Char} (hc : c ≠ '\'') (rest : List Char) :
    NoQuote (gap ++ c :: rest) := by
  cases gap with
  | nil => simpa [NoQuote] using hc
  | cons d gap =>
    have hd := hgap d List.mem_cons_self
    rintro heq
    obtain rfl : d = '\'' := by simpa using heq
    revert hd
    decide

/-- An item is read, and then what follows it decides. -/
theorem items_writeText {s : String} (hs : Clean s) (hrest : NoQuote rest) (fuel : Nat)
    (done : List Value) :
    items (fuel + 2) done ((writeText s).toList ++ rest) =
      match skipSpace (fuel + 1) rest with
      | some (']' :: rest) => some (done ++ [.str s], rest)
      | some (',' :: rest) =>
        (skipSpace (fuel + 1) rest).bind (items (fuel + 1) (done ++ [.str s]))
      | _ => none := by
  have hvalue := value_writeText hs hrest fuel
  obtain ⟨quote, cs, htext, rfl | rfl⟩ := exists_quote s
  all_goals
    rw [htext, List.cons_append] at hvalue ⊢
    rw [items]
    · rewrite [hvalue]
      rfl
    · simp

/-- Items are read up to the closing bracket. -/
theorem items_itemsText (hgap : IsGap gap) (hclose : IsGap close) (hl : ∀ s ∈ l, Clean s)
    (hne : l ≠ []) {fuel : Nat} (hfuel : l.length < fuel) (done : List Value) (rest : List Char) :
    items fuel done (itemsText gap close l ++ rest) = some (done ++ l.map .str, rest) := by
  induction l generalizing fuel done with
  | nil => exact absurd rfl hne
  | cons s l ih =>
    obtain ⟨hs, hl⟩ := List.forall_mem_cons.mp hl
    obtain ⟨fuel, rfl⟩ : ∃ n, fuel = n + 2 := ⟨fuel - 2, by simp at hfuel; omega⟩
    cases l with
    | nil =>
      have hskip : skipSpace (fuel + 1) (close ++ ']' :: rest) = some (']' :: rest) :=
        skipSpace_gap hclose (by decide) (by decide) (by decide) rest fuel
      rw [itemsText, List.append_assoc, List.append_assoc, List.singleton_append,
        items_writeText hs (noQuote_gap hclose (by decide) rest), hskip]
      rfl
    | cons t l =>
      have hnone : IsGap [] := fun c hc => absurd hc List.not_mem_nil
      have hskip : ∀ more, skipSpace (fuel + 1) (',' :: more) = some (',' :: more) := fun more =>
        skipSpace_gap hnone (by decide) (by decide) (by decide) more fuel
      have hnext : skipSpace (fuel + 1) (gap ++ (itemsText gap close (t :: l) ++ rest)) =
          some (itemsText gap close (t :: l) ++ rest) := by
        cases l with
        | nil =>
          rw [itemsText, List.append_assoc]
          exact skipSpace_writeText hgap t _ fuel
        | cons u l =>
          rw [itemsText, List.append_assoc]
          exact skipSpace_writeText hgap t _ fuel
      have hfewer : (t :: l).length < fuel + 1 := by
        rw [List.length_cons] at hfuel
        omega
      have hmore := ih hl (List.cons_ne_nil t l) hfewer (done ++ [.str s])
      rw [itemsText, List.append_assoc, List.cons_append, List.append_assoc,
        items_writeText hs (by simp [NoQuote]), hskip]
      simp only [hnext, Option.bind_some, hmore, List.append_assoc, List.map_cons]
      rfl

/-- Texts that are joined with a comma and white space, each after white space of its own. -/
theorem toList_intercalate_writeText (after before : String) (close : List Char) (hne : l ≠ []) :
    (String.intercalate ("," ++ after) (l.map fun s => before ++ writeText s)).toList ++
        (close ++ [']']) =
      before.toList ++ itemsText (after.toList ++ before.toList) close l := by
  induction l with
  | nil => exact absurd rfl hne
  | cons s l ih =>
    cases l with
    | nil => simp [itemsText]
    | cons t l =>
      have hmore := ih (List.cons_ne_nil t l)
      rw [List.map_cons] at hmore
      rw [List.map_cons, List.map_cons, String.intercalate_cons_cons, itemsText]
      simp only [String.toList_append, List.append_assoc, hmore]
      rfl

private theorem toList_writeList (hne : l ≠ []) :
    (writeList l).toList = '[' :: itemsText [' '] [] l := by
  have hitems := toList_intercalate_writeText " " "" [] hne
  simp only [String.empty_append] at hitems
  rw [writeList, String.toList_append, String.toList_append, List.append_assoc]
  exact congrArg ('[' :: ·) hitems

private theorem toList_writeLongList (hne : l ≠ []) :
    (writeLongList l).toList =
      '[' :: (['\n', ' ', ' '] ++ itemsText ['\n', ' ', ' '] ['\n'] l) := by
  have hitems := toList_intercalate_writeText "\n" "  " ['\n'] hne
  rw [writeLongList, if_neg (by simpa using hne), String.toList_append, String.toList_append,
    List.append_assoc]
  exact congrArg (['[', '\n'] ++ ·) hitems

private theorem length_lt_itemsText (gap close : List Char) (l : List String) :
    l.length < (itemsText gap close l).length := by
  induction l with
  | nil => simp [itemsText]
  | cons s l ih =>
    obtain ⟨quote, cs, htext, -⟩ := exists_quote s
    cases l with
    | nil =>
      simp only [itemsText, htext, List.length_append, List.length_cons]
      omega
    | cons t l =>
      simp only [itemsText, htext, List.length_append, List.length_cons] at ih ⊢
      omega

private theorem IsGap.return_not_mem (hgap : IsGap gap) : '\r' ∉ gap := fun h =>
  absurd (hgap _ h) (by decide)

private theorem return_not_mem_itemsText (hgap : IsGap gap) (hclose : IsGap close)
    (hl : ∀ s ∈ l, Clean s) : '\r' ∉ itemsText gap close l := by
  induction l with
  | nil => simpa [itemsText] using hclose.return_not_mem
  | cons s l ih =>
    obtain ⟨hs, hl⟩ := List.forall_mem_cons.mp hl
    cases l with
    | nil =>
      simp only [itemsText, List.mem_append, List.mem_singleton, not_or]
      exact ⟨return_not_mem_writeText hs, hclose.return_not_mem, by decide⟩
    | cons t l =>
      simp only [itemsText, List.mem_append, List.mem_cons, not_or]
      exact ⟨return_not_mem_writeText hs, by decide, hgap.return_not_mem, ih hl⟩

end Lists

/-! ## Values up to the end of a line -/

/-- A text that is read as a value if it ends a line. -/
structure Spells (text : List Char) (v : Value) : Prop where
  opens : ∃ c cs, text = c :: cs ∧ isBlank c = false
  plain : '\r' ∉ text
  reads : ∀ fuel rest, text.length ≤ fuel →
    value fuel (text ++ '\n' :: rest) = some (v, '\n' :: rest)

section Spelling

variable {l : List String}

theorem spells_writeText {s : String} (hs : Clean s) : Spells (writeText s).toList (.str s) := by
  obtain ⟨quote, cs, htext, hquote⟩ := exists_quote s
  have hblank : isBlank quote = false := by rcases hquote with rfl | rfl <;> decide
  refine ⟨⟨quote, cs, htext, hblank⟩, return_not_mem_writeText hs, fun fuel rest hfuel => ?_⟩
  obtain ⟨fuel, rfl⟩ : ∃ n, fuel = n + 1 := ⟨fuel - 1, by simp [htext] at hfuel; omega⟩
  exact value_writeText hs (by simp [NoQuote]) fuel

private theorem value_list (fuel : Nat) (rest : List Char) :
    value (fuel + 1) ('[' :: rest) =
      ((skipSpace fuel rest).bind (items fuel [])).map fun (vs, rest) => (.array vs, rest) := by
  rw [value]

private theorem spells_empty : Spells ['[', ']'] (.array []) := by
  refine ⟨⟨_, _, rfl, by decide⟩, by decide, fun fuel rest hfuel => ?_⟩
  obtain ⟨fuel, rfl⟩ : ∃ n, fuel = n + 2 := ⟨fuel - 2, by simp at hfuel; omega⟩
  rfl

private theorem spells_items {first gap close : List Char} (hfirst : IsGap first) (hgap : IsGap gap)
    (hclose : IsGap close) (hl : ∀ s ∈ l, Clean s) (hne : l ≠ []) :
    Spells ('[' :: (first ++ itemsText gap close l)) (.array (l.map .str)) := by
  have hplain : '\r' ∉ '[' :: (first ++ itemsText gap close l) := by
    simp only [List.mem_cons, List.mem_append, not_or]
    exact ⟨by decide, hfirst.return_not_mem, return_not_mem_itemsText hgap hclose hl⟩
  refine ⟨⟨_, _, rfl, by decide⟩, hplain, fun fuel rest hfuel => ?_⟩
  have hlength := length_lt_itemsText gap close l
  obtain ⟨fuel, rfl⟩ : ∃ n, fuel = n + 2 :=
    ⟨fuel - 2, by simp only [List.length_cons, List.length_append] at hfuel; omega⟩
  have hskip : skipSpace (fuel + 1) (first ++ (itemsText gap close l ++ '\n' :: rest)) =
      some (itemsText gap close l ++ '\n' :: rest) := by
    match l, hne with
    | [s], _ =>
      rw [itemsText, List.append_assoc]
      exact skipSpace_writeText hfirst s _ fuel
    | s :: t :: more, _ =>
      rw [itemsText, List.append_assoc]
      exact skipSpace_writeText hfirst s _ fuel
  have henough : l.length < fuel + 1 := by
    simp only [List.length_cons, List.length_append] at hfuel
    omega
  rw [List.cons_append, List.append_assoc, value_list, hskip]
  simp only [Option.bind_some, items_itemsText hgap hclose hl hne henough, List.nil_append]
  rfl

theorem spells_writeList (hl : ∀ s ∈ l, Clean s) :
    Spells (writeList l).toList (.array (l.map .str)) := by
  by_cases hne : l = []
  · subst hne
    exact spells_empty
  · have hnone : IsGap [] := fun c hc => absurd hc List.not_mem_nil
    rw [toList_writeList hne]
    exact spells_items hnone (by simp [IsGap, isBlank]) hnone hl hne

theorem spells_writeLongList (hl : ∀ s ∈ l, Clean s) :
    Spells (writeLongList l).toList (.array (l.map .str)) := by
  by_cases hne : l = []
  · subst hne
    exact spells_empty
  · have hgap : IsGap ['\n', ' ', ' '] := by simp [IsGap, isBlank]
    rw [toList_writeLongList hne]
    exact spells_items hgap hgap (by simp [IsGap]) hl hne

/-- A number that starts with a digit is read as one. -/
theorem spells_number {c : Char} (hdigit : c.isDigit = true) {cs : List Char} {v : Value}
    (hplain : '\r' ∉ c :: cs)
    (hscalar : ∀ rest, plainScalar (c :: cs ++ '\n' :: rest) = some (v, '\n' :: rest)) :
    Spells (c :: cs) v := by
  have hne : ∀ d : Char, d.isDigit = false → c ≠ d := by
    rintro _ hd rfl
    simp [hdigit] at hd
  refine ⟨⟨c, cs, rfl, ?_⟩, hplain, fun fuel rest hfuel => ?_⟩
  · simp [isBlank, hne ' ' rfl, hne '\t' rfl]
  · obtain ⟨fuel, rfl⟩ : ∃ n, fuel = n + 1 := ⟨fuel - 1, by simp at hfuel; omega⟩
    rw [List.cons_append, value]
    · exact hscalar rest
    all_goals simp [hne '"' rfl, hne '\'' rfl, hne 't' rfl, hne 'f' rfl, hne '[' rfl, hne '{' rfl]

/-- The threshold of a configuration that is not changed. -/
theorem spells_threshold : Spells ['0', '.', '8'] (.float 0.8) := by
  have hnearest : Decimal.nearest false 8 (-1) = 0.8 := by decide +kernel
  exact spells_number rfl (by decide) fun rest => hnearest ▸ rfl

/-- The limit of a configuration that is not changed. -/
theorem spells_limit : Spells ['1', '0'] (.int 10) :=
  spells_number rfl (by decide) fun rest => by cases rest <;> rfl

end Spelling

end CodeTwins.Toml
