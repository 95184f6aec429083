import CodeTwins.Proofs.Source.Block
import CodeTwins.Source.Comment

/-!
# Balanced blocks

A block is an opening brace, what stands inside, and a closing brace; inside stand other characters
and further blocks. Counting braces finds exactly these: at most one prefix of a text is a block, and
it is found if there is one. The brace from which counting starts is the first that is not escaped,
unless a semicolon or a closing brace comes before it.
-/
namespace CodeTwins.Source

/-- What may stand inside of a block: characters other than braces, and blocks. -/
inductive Inside : List Char → Prop where
  | nil : Inside []
  | other {c : Char} {cs : List Char} (hopen : c ≠ '{') (hclose : c ≠ '}') (hcs : Inside cs) :
      Inside (c :: cs)
  | block {inner cs : List Char} (hinner : Inside inner) (hcs : Inside cs) :
      Inside ('{' :: (inner ++ '}' :: cs))

/-- A brace, what stands inside, and the brace that closes it. -/
def IsBlock (block : List Char) : Prop :=
  ∃ inner, Inside inner ∧ block = '{' :: (inner ++ ['}'])

section Depth

@[simp] theorem depthChange_open : depthChange '{' = 1 := rfl

@[simp] theorem depthChange_close : depthChange '}' = -1 := rfl

private theorem depthChange_other {c : Char} (hopen : c ≠ '{') (hclose : c ≠ '}') :
    depthChange c = 0 := by
  simp [depthChange, hopen, hclose]

/-- Only a closing brace brings the depth down. -/
theorem eq_close_of_depth_eq_zero {depth : Nat} {c : Char}
    (h : ((depth + 1 : Nat) : Int) + depthChange c = 0) : c = '}' := by
  unfold depthChange at h
  split at h
  · omega
  · split at h
    · assumption
    · omega

private theorem closeLength_cons {depth : Int} {c : Char} (h : depth + depthChange c ≠ 0)
    (cs : List Char) :
    closeLength depth (c :: cs) = (closeLength (depth + depthChange c) cs).map (· + 1) := by
  rw [closeLength, if_neg h]

/-- What may stand inside of a block changes no depth, so counting goes on after it. -/
theorem closeLength_inside {cs : List Char} (h : Inside cs) {depth : Int} (hdepth : 0 < depth)
    (rest : List Char) :
    closeLength depth (cs ++ rest) = (closeLength depth rest).map (· + cs.length) := by
  induction h generalizing depth rest with
  | nil => simp
  | other hopen hclose _ ih =>
    have hsame := depthChange_other hopen hclose
    rw [List.cons_append, closeLength_cons (by omega), hsame, Int.add_zero, ih hdepth,
      Option.map_map]
    rfl
  | @block inner cs _ _ ihinner ihcs =>
    have hup : depth + depthChange '{' ≠ 0 := by rw [depthChange_open]; omega
    have hdown : depth + 1 + depthChange '}' = depth := by rw [depthChange_close]; omega
    have hback : depth + 1 + depthChange '}' ≠ 0 := by omega
    rw [List.cons_append, closeLength_cons hup, depthChange_open, List.append_assoc,
      ihinner (by omega), List.cons_append, closeLength_cons hback, hdown, ihcs hdepth]
    simp only [Option.map_map]
    congr 1
    funext n
    simp only [Function.comp, List.length_cons, List.length_append]
    omega

theorem closeLength_block {block : List Char} (h : IsBlock block) (rest : List Char) :
    closeLength 0 (block ++ rest) = some block.length := by
  obtain ⟨inner, hinner, rfl⟩ := h
  have hup : (0 : Int) + depthChange '{' ≠ 0 := by decide
  rw [List.cons_append, closeLength_cons hup, List.append_assoc]
  change (closeLength 1 (inner ++ '}' :: rest)).map (· + 1) = _
  rw [closeLength_inside hinner (by decide)]
  simp [closeLength, Nat.add_comm]

/-- What closes a number of blocks: for each of them what is left inside of it, and its brace. -/
inductive Closes : Nat → List Char → Prop where
  | nil : Closes 0 []
  | cons {depth : Nat} {inner rest : List Char} (hinner : Inside inner) (hrest : Closes depth rest) :
      Closes (depth + 1) (inner ++ '}' :: rest)

private theorem Closes.other {depth : Nat} {cs : List Char} {c : Char}
    (hopen : c ≠ '{') (hclose : c ≠ '}') (h : Closes (depth + 1) cs) :
    Closes (depth + 1) (c :: cs) := by
  cases h with
  | cons hinner hrest => exact .cons (.other hopen hclose hinner) hrest

/-- An opening brace begins a block, which the first of the closing braces ends. -/
theorem Closes.block {depth : Nat} {cs : List Char} (h : Closes (depth + 2) cs) :
    Closes (depth + 1) ('{' :: cs) := by
  cases h with
  | cons hinner hrest =>
    cases hrest with
    | @cons _ inner rest hinner' hrest' =>
      have hclosed := Closes.cons (.block hinner hinner') hrest'
      simpa using hclosed

/-- Where the depth comes down to zero, all blocks that were open have been closed. -/
theorem closes_of_closeLength {depth n : Nat} {cs : List Char}
    (h : closeLength (depth + 1 : Nat) cs = some n) : Closes (depth + 1) (cs.take n) := by
  induction cs generalizing depth n with
  | nil => cases h
  | cons c cs ih =>
    by_cases hend : ((depth + 1 : Nat) : Int) + depthChange c = 0
    · obtain rfl := eq_close_of_depth_eq_zero hend
      rw [depthChange_close] at hend
      obtain rfl : depth = 0 := by omega
      obtain rfl : n = 1 := by simpa [closeLength] using h.symm
      exact .cons .nil .nil
    · rw [closeLength_cons hend] at h
      obtain ⟨m, hm, rfl⟩ := Option.map_eq_some_iff.mp h
      rw [List.take_succ_cons]
      by_cases hopen : c = '{'
      · subst hopen
        have hinner : Closes (depth + 2) (cs.take m) := ih (by simpa using hm)
        exact hinner.block
      · by_cases hclose : c = '}'
        · subst hclose
          rw [depthChange_close] at hend hm
          obtain ⟨less, rfl⟩ : ∃ less, depth = less + 1 := ⟨depth - 1, by omega⟩
          have hdepth : ((less + 1 + 1 : Nat) : Int) + -1 = (less + 1 : Nat) := by omega
          rw [hdepth] at hm
          exact .cons .nil (ih hm)
        · rw [depthChange_other hopen hclose, Int.add_zero] at hm
          exact (ih hm).other hopen hclose

end Depth

section Ends

variable {text : List Char} {start stop : Nat}

theorem slice_eq_take_drop (text : List Char) (start n : Nat) :
    slice text start (start + n) = (text.drop start).take n := by
  rw [slice, List.drop_take, Nat.add_sub_cancel_left]

theorem length_slice (h : stop ≤ text.length) : (slice text start stop).length = stop - start := by
  rw [slice, List.length_drop, List.length_take, Nat.min_eq_left h]

theorem slice_append_drop (text : List Char) (h : start ≤ stop) :
    slice text start stop ++ text.drop stop = text.drop start := by
  obtain ⟨n, rfl⟩ := Nat.exists_eq_add_of_le h
  rw [slice_eq_take_drop, ← List.drop_drop, List.take_append_drop]

theorem slice_append_slice (text : List Char) {middle : Nat} (h : start ≤ middle)
    (h' : middle ≤ stop) :
    slice text start middle ++ slice text middle stop = slice text start stop := by
  have hshort : slice text start middle = slice (text.take stop) start middle := by
    rw [slice, slice, List.take_take, Nat.min_eq_left h']
  rw [hshort]
  exact slice_append_drop (text.take stop) h

private theorem IsBlock.ne_nil {block : List Char} (h : IsBlock block) : block ≠ [] := by
  obtain ⟨inner, -, rfl⟩ := h
  exact List.cons_ne_nil _ _

private theorem lt_of_slice_ne_nil (h : slice text start stop ≠ []) : start < stop := by
  refine Nat.lt_of_not_le fun hle => h ?_
  exact List.drop_eq_nil_of_le (Nat.le_trans (List.length_take_le _ _) hle)

/-- The end of a block that starts with a brace is found, and nothing else is. -/
theorem bodyEnd_eq_some_iff (hstart : text[start]? = some '{') {stop : Nat} :
    bodyEnd text start = some stop ↔ stop ≤ text.length ∧ IsBlock (slice text start stop) := by
  constructor
  · intro h
    refine ⟨bodyEnd_le h, ?_⟩
    obtain ⟨n, hn, rfl⟩ := Option.map_eq_some_iff.mp h
    rw [slice_eq_take_drop]
    obtain ⟨hlt, hbrace⟩ := List.getElem?_eq_some_iff.mp hstart
    have hdrop : text.drop start = '{' :: text.drop (start + 1) := by
      rw [List.drop_eq_getElem_cons hlt, hbrace]
    rw [hdrop, closeLength_cons (by decide)] at hn
    obtain ⟨m, hm, rfl⟩ := Option.map_eq_some_iff.mp hn
    rw [hdrop, List.take_succ_cons]
    generalize htake : (text.drop (start + 1)).take m = taken
    have hcloses : Closes (0 + 1) taken := by
      rw [← htake]
      exact closes_of_closeLength hm
    cases hcloses with
    | @cons _ inner _ hinner hrest =>
      cases hrest
      exact ⟨inner, hinner, rfl⟩
  · intro ⟨hstop, hblock⟩
    have hlt := lt_of_slice_ne_nil hblock.ne_nil
    rw [bodyEnd, ← slice_append_drop text (Nat.le_of_lt hlt), closeLength_block hblock,
      length_slice hstop]
    simp only [Option.map_some]
    congr 1
    omega

/-- Nothing is found where no prefix of the text is a block. -/
theorem bodyEnd_eq_none_iff (hstart : text[start]? = some '{') :
    bodyEnd text start = none ↔ ∀ block, block <+: text.drop start → ¬ IsBlock block := by
  constructor
  · intro h block hprefix hblock
    obtain ⟨rest, hrest⟩ := hprefix
    rw [bodyEnd, ← hrest, closeLength_block hblock] at h
    cases h
  · intro h
    cases hend : bodyEnd text start with
    | none => rfl
    | some stop =>
      obtain ⟨-, hblock⟩ := (bodyEnd_eq_some_iff hstart).mp hend
      have hlt := lt_of_slice_ne_nil hblock.ne_nil
      exact absurd hblock (h _ ⟨text.drop stop, slice_append_drop text (Nat.le_of_lt hlt)⟩)

end Ends

section Starts

variable {text : List Char} {offset start : Nat}

/-- An opening brace that has no backslash before it. -/
def Opens (text : List Char) (i : Nat) : Prop :=
  text[i]? = some '{' ∧ ¬ (0 < i ∧ text[i - 1]? = some '\\')

/-- What may stand between a signature and its block: no semicolon, no closing brace, and no opening
brace but those that are escaped. -/
def IsGap (text : List Char) (start stop : Nat) : Prop :=
  ∀ i, start ≤ i → i < stop → text[i]? ≠ some ';' ∧ text[i]? ≠ some '}' ∧ ¬ Opens text i

/-- A block is opened here, or a character that may stand before it is passed. -/
theorem opens_after_gap_iff :
    (offset ≤ start ∧ Opens text start ∧ IsGap text offset start) ↔
      (Opens text offset ∧ start = offset) ∨
      ((text[offset]? ≠ some ';' ∧ text[offset]? ≠ some '}' ∧ ¬ Opens text offset) ∧
        offset + 1 ≤ start ∧ Opens text start ∧ IsGap text (offset + 1) start) := by
  constructor
  · intro ⟨hle, hopens, hgap⟩
    by_cases heq : start = offset
    · exact .inl ⟨heq ▸ hopens, heq⟩
    · have hlt : offset < start := by omega
      exact .inr ⟨hgap offset (Nat.le_refl _) hlt, hlt, hopens,
        fun i hi hi' => hgap i (by omega) hi'⟩
  · intro h
    rcases h with ⟨hopens, rfl⟩ | ⟨hhere, hle, hopens, hgap⟩
    · exact ⟨Nat.le_refl _, hopens, fun i hi hi' => absurd hi' (by omega)⟩
    · refine ⟨by omega, hopens, fun i hi hi' => ?_⟩
      by_cases heq : i = offset
      · exact heq ▸ hhere
      · exact hgap i (by omega) hi'

/-- The character before an offset. -/
def charBefore (text : List Char) (offset : Nat) : Option Char :=
  if offset = 0 then none else text[offset - 1]?

private theorem charBefore_eq_iff {c : Char} :
    charBefore text offset = some c ↔ 0 < offset ∧ text[offset - 1]? = some c := by
  by_cases h : offset = 0 <;> simp [charBefore, h, Nat.pos_of_ne_zero]

private theorem gapLength_eq_some_iff {cs : List Char} (hcs : text.drop offset = cs) {n : Nat} :
    gapLength (charBefore text offset) cs = some n ↔
      offset ≤ offset + n ∧ Opens text (offset + n) ∧ IsGap text offset (offset + n) := by
  induction cs generalizing offset n with
  | nil =>
    have hend : text[offset + n]? = none :=
      List.getElem?_eq_none (Nat.le_trans (List.drop_eq_nil_iff.mp hcs) (Nat.le_add_right _ _))
    simp [gapLength, Opens, hend]
  | cons c cs ih =>
    have hhere : text[offset]? = some c := by
      rw [← List.head?_drop, hcs, List.head?_cons]
    have hnext : text.drop (offset + 1) = cs := by
      rw [← List.drop_drop, hcs, List.drop_one, List.tail_cons]
    have hbefore : charBefore text (offset + 1) = some c := by
      simp [charBefore, hhere]
    have hopens : Opens text offset ↔ c = '{' ∧ charBefore text offset ≠ some '\\' := by
      simp [Opens, hhere, ← charBefore_eq_iff]
    -- the character is passed, so that what comes after it decides
    have hpass : ((gapLength (some c) cs).map (· + 1) = some n) ↔
        offset + 1 ≤ offset + n ∧ Opens text (offset + n) ∧ IsGap text (offset + 1) (offset + n) := by
      cases n with
      | zero =>
        have hnot : ¬ offset + 1 ≤ offset := by omega
        simp [hnot]
      | succ m =>
        have hlater := ih hnext (n := m)
        rw [hbefore] at hlater
        have hsum : offset + (m + 1) = offset + 1 + m := by omega
        rw [hsum, ← hlater]
        simp
    rw [opens_after_gap_iff, hopens, hhere, gapLength, ← hpass]
    by_cases hbrace : c = '{'
    · by_cases hescaped : charBefore text offset = some '\\'
      · simp [hbrace, hescaped]
      · simp [hbrace, hescaped, eq_comm]
    · by_cases hstop : c = ';' ∨ c = '}'
      · rcases hstop with rfl | rfl <;> simp
      · simp only [not_or] at hstop
        simp [hbrace, hstop]

/-- The brace that opens the block after an offset is the first that is not escaped, and neither a
semicolon nor a closing brace comes before it. -/
theorem bodyStart_eq_some_iff :
    bodyStart text offset = some start ↔
      offset ≤ start ∧ Opens text start ∧ IsGap text offset start := by
  change (gapLength (charBefore text offset) (text.drop offset)).map (offset + ·) = some start ↔ _
  constructor
  · intro h
    obtain ⟨n, hn, rfl⟩ := Option.map_eq_some_iff.mp h
    exact (gapLength_eq_some_iff rfl).mp hn
  · intro h
    obtain ⟨n, rfl⟩ := Nat.exists_eq_add_of_le h.1
    rw [(gapLength_eq_some_iff rfl).mpr h, Option.map_some]

end Starts

end CodeTwins.Source
