import CodeTwins.Proofs.Source.Balanced

/-!
# Blocks inside of blocks

A brace inside of a block opens a block of its own, which ends before the other one does. So blocks never
overlap in part: two blocks of a text that share a character are the same, or one is inside of the other.
-/
namespace CodeTwins.Source

section Blocks

/-- What is opened inside of a block is closed there. -/
theorem Inside.exists_isBlock {cs : List Char} (h : Inside cs) {i : Nat} (hi : cs[i]? = some '{') :
    ∃ block, IsBlock block ∧ block <+: cs.drop i := by
  induction h generalizing i with
  | nil => simp at hi
  | other hopen hclose hcs ih =>
    cases i with
    | zero => exact absurd (by simpa using hi) hopen
    | succ i => exact ih (by simpa using hi)
  | @block inner cs hinner hcs ihinner ihcs =>
    cases i with
    | zero =>
      refine ⟨'{' :: (inner ++ ['}']), ⟨inner, hinner, rfl⟩, cs, ?_⟩
      simp
    | succ i =>
      simp only [List.getElem?_cons_succ] at hi
      simp only [List.drop_succ_cons]
      by_cases hlt : i < inner.length
      · rw [List.getElem?_append_left hlt] at hi
        obtain ⟨block, hblock, hbegins⟩ := ihinner hi
        rw [List.drop_append_of_le_length (Nat.le_of_lt hlt)]
        exact ⟨block, hblock, hbegins.trans (List.prefix_append _ _)⟩
      · -- the brace is not the one that closes this block, so it stands after that
        obtain ⟨n, rfl⟩ := Nat.exists_eq_add_of_le (Nat.not_lt.mp hlt)
        rw [List.getElem?_append_right (Nat.le_add_right _ _), Nat.add_sub_cancel_left] at hi
        rw [List.drop_append, Nat.add_sub_cancel_left, List.drop_of_length_le (Nat.le_add_right _ _),
          List.nil_append]
        cases n with
        | zero => simp at hi
        | succ n => exact ihcs (by simpa using hi)

/-- A brace after the first of a block opens a block that ends before the last. -/
theorem IsBlock.exists_inner {block : List Char} (h : IsBlock block) {i : Nat} (hpos : 0 < i)
    (hi : block[i]? = some '{') :
    ∃ inner, IsBlock inner ∧ inner <+: block.drop i ∧ i + inner.length < block.length := by
  obtain ⟨between, hbetween, rfl⟩ := h
  obtain ⟨n, rfl⟩ : ∃ n, i = n + 1 := ⟨i - 1, by omega⟩
  simp only [List.getElem?_cons_succ] at hi
  have hlt : n < between.length := by
    apply Nat.lt_of_not_le
    intro hle
    rw [List.getElem?_append_right hle] at hi
    have hlast := List.mem_of_getElem? hi
    simp at hlast
  rw [List.getElem?_append_left hlt] at hi
  obtain ⟨inner, hinner, hbegins⟩ := hbetween.exists_isBlock hi
  have hlength := hbegins.length_le
  rw [List.length_drop] at hlength
  refine ⟨inner, hinner, ?_, ?_⟩
  · rw [List.drop_succ_cons, List.drop_append_of_le_length (Nat.le_of_lt hlt)]
    exact hbegins.trans (List.prefix_append _ _)
  · simp only [List.length_cons, List.length_append, List.length_nil]
    omega

end Blocks

section Spans

variable {text : List Char} {start stop : Nat}

private theorem bodyEnd_of_isPrefix {block : List Char} (hblock : IsBlock block)
    (hbegins : block <+: text.drop start) : bodyEnd text start = some (start + block.length) := by
  obtain ⟨rest, hrest⟩ := hbegins
  rw [bodyEnd, ← hrest, closeLength_block hblock, Option.map_some]

/-- From a brace inside of a block, counting comes to an end before it does from the brace of the block. -/
theorem exists_bodyEnd_lt {inner : Nat} (hopen : text[start]? = some '{')
    (hinner : text[inner]? = some '{') (hstop : bodyEnd text start = some stop)
    (hstart : start < inner) (hlt : inner < stop) :
    ∃ innerStop, bodyEnd text inner = some innerStop ∧ innerStop < stop := by
  obtain ⟨hle, hblock⟩ := (bodyEnd_eq_some_iff hopen).mp hstop
  obtain ⟨i, rfl⟩ := Nat.exists_eq_add_of_le (Nat.le_of_lt hstart)
  have hlength : (slice text start stop).length = stop - start := length_slice hle
  have happend := slice_append_drop text (Nat.le_of_lt (Nat.lt_trans hstart hlt))
  have hi : (slice text start stop)[i]? = some '{' := by
    have hget : (text.drop start)[i]? = some '{' := by rw [List.getElem?_drop, hinner]
    rw [← happend, List.getElem?_append_left (by omega)] at hget
    exact hget
  obtain ⟨block, hinnerBlock, hbegins, hbound⟩ := hblock.exists_inner (by omega) hi
  have hdrop : block <+: text.drop (start + i) := by
    rw [← List.drop_drop, ← happend, List.drop_append_of_le_length (by omega)]
    exact hbegins.trans (List.prefix_append _ _)
  exact ⟨start + i + block.length, bodyEnd_of_isPrefix hinnerBlock hdrop, by omega⟩

/-- How two spans lie that do not overlap in part: they are the same, one ends before the other begins,
or one begins after the other and ends before it. -/
inductive Nested (s t : Nat × Nat) : Prop where
  | same (heq : s = t)
  | before (hle : s.2 ≤ t.1)
  | after (hle : t.2 ≤ s.1)
  | around (hstart : s.1 < t.1) (hstop : t.2 < s.2)
  | inside (hstart : t.1 < s.1) (hstop : s.2 < t.2)

private theorem Nested.symm {s t : Nat × Nat} (h : Nested s t) : Nested t s := by
  cases h with
  | same heq => exact .same heq.symm
  | before hle => exact .after hle
  | after hle => exact .before hle
  | around hstart hstop => exact .inside hstart hstop
  | inside hstart hstop => exact .around hstart hstop

/-- The span of a block of a text, as counting braces finds it. -/
structure IsBody (text : List Char) (body : Nat × Nat) : Prop where
  opens : text[body.1]? = some '{'
  ends : bodyEnd text body.1 = some body.2

private theorem IsBody.nested_of_lt {s t : Nat × Nat} (hs : IsBody text s) (ht : IsBody text t)
    (hlt : s.1 < t.1) : Nested s t := by
  by_cases hinside : t.1 < s.2
  · obtain ⟨stop, hstop, hbound⟩ := exists_bodyEnd_lt hs.opens ht.opens hs.ends hlt hinside
    obtain rfl := Option.some.inj (hstop.symm.trans ht.ends)
    exact .around hlt hbound
  · exact .before (Nat.le_of_not_lt hinside)

theorem IsBody.nested {s t : Nat × Nat} (hs : IsBody text s) (ht : IsBody text t) : Nested s t := by
  rcases Nat.lt_trichotomy s.1 t.1 with hlt | heq | hgt
  · exact hs.nested_of_lt ht hlt
  · have hstop : s.2 = t.2 := by
      apply Option.some.inj
      rw [← hs.ends, ← ht.ends, heq]
    exact .same (Prod.ext heq hstop)
  · exact (ht.nested_of_lt hs hgt).symm

/-- A block opened within a block, if only by its own brace, ends within it. -/
theorem IsBody.exists_bodyEnd {body : Nat × Nat} (h : IsBody text body) {opening : Nat}
    (hopening : text[opening]? = some '{') (hle : body.1 ≤ opening) (hlt : opening < body.2) :
    ∃ closing, bodyEnd text opening = some closing ∧ closing ≤ body.2 := by
  rcases Nat.eq_or_lt_of_le hle with rfl | hstart
  · exact ⟨body.2, h.ends, Nat.le_refl _⟩
  · obtain ⟨closing, hclosing, hbound⟩ := exists_bodyEnd_lt h.opens hopening h.ends hstart hlt
    exact ⟨closing, hclosing, Nat.le_of_lt hbound⟩

end Spans

end CodeTwins.Source
