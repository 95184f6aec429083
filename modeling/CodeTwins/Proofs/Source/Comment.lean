import CodeTwins.Proofs.Source.Balanced
import CodeTwins.Proofs.Text.Lines
import Mathlib.Data.List.Induction

/-!
# Comments by position and by scanning

A scan from left to right knows where comments begin and end. Whether a position lies in a comment is
judged without it, from the text around the position. A position that is judged to be outside is outside
for the scan, but for one at the slash that closes a comment. A position that is outside for the scan is
judged to be so unless slashes stand before it on its line or the nearest opener before it is a stray one.
-/
namespace CodeTwins.Source

section Pairs

variable {a b : Char} {text : List Char}

/-- Two characters that stand one after the other at a position. -/
def PairAt (a b : Char) (text : List Char) (i : Nat) : Prop :=
  text[i]? = some a ∧ text[i + 1]? = some b

private theorem pairAt_cons_succ {c : Char} {i : Nat} :
    PairAt a b (c :: text) (i + 1) ↔ PairAt a b text i := by
  simp [PairAt]

private theorem pairAt_cons_zero {c d : Char} :
    PairAt a b (c :: d :: text) 0 ↔ c = a ∧ d = b := by
  simp [PairAt]

private theorem pairAt_take_iff {n i : Nat} :
    PairAt a b (text.take n) i ↔ PairAt a b text i ∧ i + 2 ≤ n := by
  simp only [PairAt, List.getElem?_take]
  by_cases hn : i + 2 ≤ n
  · rw [if_pos (by omega), if_pos (by omega), and_iff_left hn]
  · have hend : ¬ i + 1 < n := by omega
    simp [hend, hn]

private theorem pairAt_drop_iff {n i : Nat} :
    PairAt a b (text.drop n) i ↔ PairAt a b text (n + i) := by
  simp only [PairAt, List.getElem?_drop, Nat.add_assoc]

private theorem pairAt_slice_iff {start stop i : Nat} :
    PairAt a b (slice text start stop) i ↔ PairAt a b text (start + i) ∧ start + i + 2 ≤ stop := by
  rw [slice, pairAt_drop_iff, pairAt_take_iff]

private theorem not_pairAt_of_length_lt {i : Nat} (h : text.length < 2) : ¬ PairAt a b text i := by
  rintro ⟨-, hb⟩
  have hlt := (List.getElem?_eq_some_iff.mp hb).1
  omega

private theorem exists_pairAt_cons_iff {c d : Char} :
    (∃ i, PairAt a b (c :: d :: text) i) ↔ (c = a ∧ d = b) ∨ ∃ i, PairAt a b (d :: text) i := by
  constructor
  · rintro ⟨_ | i, hi⟩
    · exact .inl (pairAt_cons_zero.mp hi)
    · exact .inr ⟨i, pairAt_cons_succ.mp hi⟩
  · rintro (h | ⟨i, hi⟩)
    · exact ⟨0, pairAt_cons_zero.mpr h⟩
    · exact ⟨i + 1, pairAt_cons_succ.mpr hi⟩

/-- A character that is added makes a pair only with the last one. -/
theorem exists_pairAt_concat_iff {c : Char} :
    (∃ i, PairAt a b (text ++ [c]) i) ↔
      (∃ i, PairAt a b text i) ∨ (text.getLast? = some a ∧ c = b) := by
  induction text with
  | nil => simp [not_pairAt_of_length_lt]
  | cons d text ih =>
    cases text with
    | nil => simp [exists_pairAt_cons_iff, not_pairAt_of_length_lt]
    | cons e text =>
      have ih' := ih
      rw [List.cons_append] at ih'
      rw [List.cons_append, List.cons_append, exists_pairAt_cons_iff, ih', exists_pairAt_cons_iff,
        or_assoc, List.getLast?_cons_cons]

private theorem isSome_findPair_iff : (findPair a b text).isSome = true ↔ ∃ i, PairAt a b text i := by
  induction text with
  | nil => simp [findPair, not_pairAt_of_length_lt]
  | cons c cs ih =>
    cases cs with
    | nil => simp [findPair, not_pairAt_of_length_lt]
    | cons d cs =>
      rw [exists_pairAt_cons_iff, ← ih, findPair]
      split
      case isTrue h => simp [h]
      case isFalse h => simp [h]

private theorem findLastPair_eq_none_iff :
    findLastPair a b text = none ↔ ¬ ∃ i, PairAt a b text i := by
  induction text with
  | nil => simp [findLastPair, not_pairAt_of_length_lt]
  | cons c cs ih =>
    cases cs with
    | nil => simp [findLastPair, not_pairAt_of_length_lt]
    | cons d cs =>
      rw [exists_pairAt_cons_iff, not_or, ← ih, findLastPair]
      cases findLastPair a b (d :: cs) <;> simp

/-- The pair that is found last is one, and none comes after it. -/
theorem pairAt_of_findLastPair {i : Nat} (h : findLastPair a b text = some i) :
    PairAt a b text i ∧ ∀ j, PairAt a b text j → j ≤ i := by
  induction text generalizing i with
  | nil => cases h
  | cons c cs ih =>
    cases cs with
    | nil => cases h
    | cons d cs =>
      rw [findLastPair] at h
      cases hlater : findLastPair a b (d :: cs) with
      | some k =>
        rw [hlater] at h
        obtain rfl := Option.some.inj h
        obtain ⟨hk, hlast⟩ := ih hlater
        refine ⟨pairAt_cons_succ.mpr hk, fun j hj => ?_⟩
        cases j with
        | zero => exact Nat.zero_le _
        | succ j => exact Nat.succ_le_succ (hlast j (pairAt_cons_succ.mp hj))
      | none =>
        rw [hlater] at h
        have hnone := findLastPair_eq_none_iff.mp hlater
        dsimp only at h
        split at h
        case isTrue hpair =>
          obtain rfl := Option.some.inj h
          refine ⟨pairAt_cons_zero.mpr hpair, fun j hj => ?_⟩
          cases j with
          | zero => exact Nat.le_refl 0
          | succ j => exact absurd ⟨j, pairAt_cons_succ.mp hj⟩ hnone
        case isFalse => cases h

/-- The last line starts at the first position after which there is no newline. -/
theorem exists_lastLine_eq_drop (cs : List Char) :
    ∃ n, lastLine cs = cs.drop n ∧ '\n' ∉ cs.drop n ∧ ∀ i < n, '\n' ∈ cs.drop i := by
  by_cases hnewline : '\n' ∈ cs
  · obtain ⟨rest, earlier, hreverse, hrest⟩ :=
      List.eq_append_cons_of_mem (List.mem_reverse.mpr hnewline)
    have hcs : cs = earlier.reverse ++ '\n' :: rest.reverse := by
      rw [← List.reverse_reverse cs, hreverse, List.reverse_append, List.reverse_cons,
        List.append_assoc, List.singleton_append]
    have hrest : '\n' ∉ rest.reverse := by simpa using hrest
    have hdrop : cs.drop (earlier.reverse.length + 1) = rest.reverse := by
      rw [hcs, ← List.drop_drop, List.drop_left, List.drop_one, List.tail_cons]
    refine ⟨earlier.reverse.length + 1, ?_, by rwa [hdrop], fun i hi => ?_⟩
    · rw [hdrop, hcs, lastLine_append_newline, lastLine_of_notMem hrest]
    · rw [hcs, List.drop_append_of_le_length (by omega)]
      exact List.mem_append_right _ (.head _)
  · exact ⟨0, lastLine_of_notMem hnewline, hnewline, fun i hi => absurd hi (Nat.not_lt_zero i)⟩

/-- A pair stands in the last line if no newline comes after it. -/
theorem exists_pairAt_lastLine_iff {cs : List Char} :
    (∃ i, PairAt a b (lastLine cs) i) ↔ ∃ i, PairAt a b cs i ∧ '\n' ∉ cs.drop i := by
  obtain ⟨n, hline, hnone, hearlier⟩ := exists_lastLine_eq_drop cs
  rw [hline]
  constructor
  · rintro ⟨i, hi⟩
    refine ⟨n + i, pairAt_drop_iff.mp hi, fun hmem => hnone ?_⟩
    rw [← List.drop_drop] at hmem
    exact List.mem_of_mem_drop hmem
  · rintro ⟨i, hi, hlast⟩
    obtain ⟨j, rfl⟩ : ∃ j, i = n + j := by
      refine Nat.exists_eq_add_of_le (Nat.le_of_not_lt fun hlt => hlast (hearlier i hlt))
    exact ⟨j, pairAt_drop_iff.mpr hi⟩

end Pairs

section Judgement

variable {text : List Char} {p : Nat}

/-- Two slashes before the position on its line. -/
def SlashesBefore (text : List Char) (p : Nat) : Prop :=
  ∃ i, PairAt '/' '/' text i ∧ i + 2 ≤ p ∧ '\n' ∉ slice text i p

/-- The nearest `/*` before a position. -/
structure IsNearestOpener (text : List Char) (p o : Nat) : Prop where
  opens : PairAt '/' '*' text o
  before : o + 2 ≤ p
  nearest : ∀ i, PairAt '/' '*' text i → i + 2 ≤ p → i ≤ o

/-- A `*/` that stands after the `/*` at the first position, with its slash at the second position at
the latest. -/
def ClosedBetween (text : List Char) (o p : Nat) : Prop :=
  ∃ i, o + 2 ≤ i ∧ i < p ∧ PairAt '*' '/' text i

private theorem slashesBefore_iff :
    (findPair '/' '/' (lastLine (text.take p))).isSome = true ↔ SlashesBefore text p := by
  rw [isSome_findPair_iff, exists_pairAt_lastLine_iff]
  simp only [pairAt_take_iff, and_assoc]
  rfl

private theorem closedBetween_iff {o : Nat} :
    (findPair '*' '/' (slice text (o + 2) (p + 1))).isSome = true ↔ ClosedBetween text o p := by
  rw [isSome_findPair_iff]
  simp only [pairAt_slice_iff]
  constructor
  · rintro ⟨i, hi, hle⟩
    exact ⟨o + 2 + i, by omega, by omega, hi⟩
  · rintro ⟨i, hle, hlt, hi⟩
    obtain ⟨j, rfl⟩ := Nat.exists_eq_add_of_le hle
    exact ⟨j, hi, by omega⟩

private theorem isNearestOpener_of_findLastPair {o : Nat}
    (h : findLastPair '/' '*' (text.take p) = some o) : IsNearestOpener text p o := by
  obtain ⟨ho, hlast⟩ := pairAt_of_findLastPair h
  obtain ⟨hopens, hbefore⟩ := pairAt_take_iff.mp ho
  exact ⟨hopens, hbefore, fun i hi hle => hlast i (pairAt_take_iff.mpr ⟨hi, hle⟩)⟩

private theorem IsNearestOpener.unique {o o' : Nat} (h : IsNearestOpener text p o)
    (h' : IsNearestOpener text p o') : o = o' :=
  Nat.le_antisymm (h'.nearest o h.opens h.before) (h.nearest o' h'.opens h'.before)

/-- A position is judged to be outside of comments if no slashes stand before it on its line, and the
nearest opener before it is closed. -/
theorem isInsideComment_eq_false_iff :
    isInsideComment text p = false ↔
      ¬ SlashesBefore text p ∧ ∀ o, IsNearestOpener text p o → ClosedBetween text o p := by
  rw [← slashesBefore_iff]
  unfold isInsideComment
  by_cases hslashes : (findPair '/' '/' (lastLine (text.take p))).isSome = true
  · simp [hslashes]
  · rw [if_neg hslashes, and_iff_right hslashes]
    cases hopener : findLastPair '/' '*' (text.take p) with
    | none =>
      refine iff_of_true rfl fun o ho => ?_
      exact absurd ⟨o, pairAt_take_iff.mpr ⟨ho.opens, ho.before⟩⟩ (findLastPair_eq_none_iff.mp hopener)
    | some o =>
      have hnearest := isNearestOpener_of_findLastPair hopener
      dsimp only
      rw [← Option.not_isSome, Bool.not_eq_false', closedBetween_iff]
      exact ⟨fun h o' ho' => hnearest.unique ho' ▸ h, fun h => h o hnearest⟩

end Judgement

section Scan

/-- Where a scan from left to right is: outside of comments, with or without a slash before it that may
begin a comment, in a line comment, or in a block comment, with or without a star before it that may
begin its end. -/
inductive ScanState where
  | code
  | slash
  | line
  | block
  | star
deriving DecidableEq, Repr

namespace ScanState

/-- A comment is begun only outside of comments. A line comment ends with its line, and a block comment
with the first `*/` after the `/*`. -/
def step : ScanState → Char → ScanState
  | code, c => if c = '/' then slash else code
  | slash, c => if c = '/' then line else if c = '*' then block else code
  | line, c => if c = '\n' then code else line
  | block, c => if c = '*' then star else block
  | star, c => if c = '/' then code else if c = '*' then star else block

def InBlock (s : ScanState) : Prop :=
  s = block ∨ s = star

def Outside (s : ScanState) : Prop :=
  s = code ∨ s = slash

instance : DecidablePred InBlock := fun _ => inferInstanceAs (Decidable (_ ∨ _))

instance : DecidablePred Outside := fun _ => inferInstanceAs (Decidable (_ ∨ _))

end ScanState

/-- A block comment is left only by a slash after a star. -/
theorem ScanState.eq_star_of_step {s : ScanState} {c : Char} (h : s.InBlock)
    (hleft : ¬ (s.step c).InBlock) : s = star ∧ c = '/' := by
  rcases h with rfl | rfl
  · by_cases hc : c = '*' <;> simp [step, InBlock, hc] at hleft
  · refine ⟨rfl, ?_⟩
    by_contra hslash
    by_cases hc : c = '*' <;> simp [step, InBlock, hc, hslash] at hleft

/-- The state of the scan after a text has been read. -/
def scan (text : List Char) : ScanState :=
  text.foldl .step .code

private theorem scan_concat (text : List Char) (c : Char) :
    scan (text ++ [c]) = (scan text).step c := by
  simp [scan]

/-- The last block comment of a text, what has been read of it given, has not ended. -/
def OpensBlock (text rest : List Char) : Prop :=
  (∃ before, text = before ++ '/' :: '*' :: rest) ∧ ¬ ∃ i, PairAt '*' '/' rest i

private theorem OpensBlock.concat {text rest : List Char} (h : OpensBlock text rest) {c : Char}
    (hc : ¬ (rest.getLast? = some '*' ∧ c = '/')) : OpensBlock (text ++ [c]) (rest ++ [c]) := by
  obtain ⟨⟨before, rfl⟩, hopen⟩ := h
  refine ⟨⟨before, by simp⟩, ?_⟩
  rw [exists_pairAt_concat_iff, not_or]
  exact ⟨hopen, hc⟩

/-- What has been read of a text when the scan is in a state. -/
def ScanState.Describes : ScanState → List Char → Prop
  | code, _ => True
  | slash, text => ∃ before, text = before ++ ['/']
  | line, text => ∃ before rest, text = before ++ '/' :: '/' :: rest ∧ '\n' ∉ rest
  | block, text => ∃ rest, OpensBlock text rest ∧ rest.getLast? ≠ some '*'
  | star, text => ∃ rest, OpensBlock text rest ∧ rest.getLast? = some '*'

private theorem ScanState.Describes.step {s : ScanState} {text : List Char} (h : s.Describes text)
    (c : Char) : (s.step c).Describes (text ++ [c]) := by
  cases s with
  | code =>
    by_cases hc : c = '/'
    · subst hc
      exact ⟨text, rfl⟩
    · simp [ScanState.step, hc, Describes]
  | slash =>
    obtain ⟨before, rfl⟩ := h
    by_cases hslash : c = '/'
    · subst hslash
      exact ⟨before, [], by simp, List.not_mem_nil⟩
    · by_cases hstar : c = '*'
      · subst hstar
        exact ⟨[], ⟨⟨before, by simp⟩, by simp [PairAt]⟩, by simp⟩
      · simp [ScanState.step, hslash, hstar, Describes]
  | line =>
    obtain ⟨before, rest, rfl, hrest⟩ := h
    by_cases hc : c = '\n'
    · simp [ScanState.step, hc, Describes]
    · rw [ScanState.step, if_neg hc]
      exact ⟨before, rest ++ [c], by simp, by simp [hrest, Ne.symm hc]⟩
  | block =>
    obtain ⟨rest, hopens, hlast⟩ := h
    have hstill := hopens.concat (c := c) fun hpair => hlast hpair.1
    by_cases hc : c = '*'
    · rw [ScanState.step, if_pos hc]
      exact ⟨_, hstill, by simp [hc]⟩
    · rw [ScanState.step, if_neg hc]
      exact ⟨_, hstill, by simp [hc]⟩
  | star =>
    obtain ⟨rest, hopens, -⟩ := h
    by_cases hslash : c = '/'
    · simp [ScanState.step, hslash, Describes]
    · have hstill := hopens.concat (c := c) fun hpair => hslash hpair.2
      by_cases hc : c = '*'
      · rw [ScanState.step, if_neg hslash, if_pos hc]
        exact ⟨_, hstill, by simp [hc]⟩
      · rw [ScanState.step, if_neg hslash, if_neg hc]
        exact ⟨_, hstill, by simp [hc]⟩

private theorem describes_scan (text : List Char) : (scan text).Describes text := by
  induction text using List.reverseRecOn with
  | nil => trivial
  | append_singleton text c ih =>
    rw [scan_concat]
    exact ih.step c

end Scan

section Position

variable {text : List Char} {p : Nat}

private theorem scan_take_succ {c : Char} (h : text[p]? = some c) :
    scan (text.take (p + 1)) = (scan (text.take p)).step c := by
  rw [List.take_add_one, h, Option.toList_some, scan_concat]

private theorem pairAt_append_left {a b : Char} (before rest : List Char) :
    PairAt a b (before ++ a :: b :: rest) before.length := by
  simp [PairAt]

/-- In a line comment, slashes stand before the position on its line. -/
theorem slashesBefore_of_scan (h : scan (text.take p) = .line) : SlashesBefore text p := by
  have hscanned := describes_scan (text.take p)
  rw [h] at hscanned
  obtain ⟨before, rest, htake, hrest⟩ := hscanned
  have hpair := pairAt_append_left (a := '/') (b := '/') before rest
  rw [← htake, pairAt_take_iff] at hpair
  refine ⟨before.length, hpair.1, hpair.2, ?_⟩
  rw [slice, htake, List.drop_left]
  simp [hrest]

/-- In a block comment, an opener stands before the position, and no `*/` has been read after it. If a
star has been read last, and not as that of the opener, the comment may end. -/
theorem exists_opener_of_scan (h : (scan (text.take p)).InBlock) :
    ∃ o, PairAt '/' '*' text o ∧ o + 2 ≤ p ∧
      (∀ i, o + 2 ≤ i → i + 2 ≤ p → ¬ PairAt '*' '/' text i) ∧
      ∀ i, o + 2 ≤ i → i + 1 = p → text[i]? = some '*' → scan (text.take p) = .star := by
  have hscanned := describes_scan (text.take p)
  obtain ⟨rest, ⟨⟨before, htake⟩, hopen⟩, hlast⟩ : ∃ rest, OpensBlock (text.take p) rest ∧
      (rest.getLast? = some '*' → scan (text.take p) = .star) := by
    rcases h with h | h
    · rw [h] at hscanned
      exact hscanned.imp fun _ hrest => ⟨hrest.1, fun hstar => absurd hstar hrest.2⟩
    · rw [h] at hscanned
      exact hscanned.imp fun _ hrest => ⟨hrest.1, fun _ => h⟩
  have hpair := pairAt_append_left (a := '/') (b := '*') before rest
  rw [← htake, pairAt_take_iff] at hpair
  have hdrop : (text.take p).drop (before.length + 2) = rest := by
    rw [htake, ← List.drop_drop, List.drop_left]
    rfl
  refine ⟨before.length, hpair.1, hpair.2, fun i hle hend hi => hopen ?_, ?_⟩
  · obtain ⟨j, rfl⟩ := Nat.exists_eq_add_of_le hle
    refine ⟨j, ?_⟩
    rw [← hdrop, pairAt_drop_iff, pairAt_take_iff]
    exact ⟨hi, hend⟩
  · rintro i hle rfl hstar
    refine hlast ?_
    have hlt := (List.getElem?_eq_some_iff.mp hstar).1
    rw [← hdrop, List.getLast?_drop, if_neg (by rw [List.length_take]; omega),
      List.getLast?_eq_getElem?, List.length_take_of_le hlt, List.getElem?_take_of_lt (by omega)]
    simpa using hstar

/-- What is judged to be outside of comments is outside for the scan, but for the slash that closes a
block comment. -/
theorem scan_of_isInsideComment_eq_false (h : isInsideComment text p = false) :
    scan (text.take p) ≠ .line ∧ ((scan (text.take p)).InBlock →
      0 < p ∧ text[p - 1]? = some '*' ∧ text[p]? = some '/' ∧ scan (text.take (p + 1)) = .code) := by
  obtain ⟨hslashes, hclosed⟩ := isInsideComment_eq_false_iff.mp h
  refine ⟨fun hline => hslashes (slashesBefore_of_scan hline), fun hblock => ?_⟩
  obtain ⟨o, hopens, hbefore, hopen, hstar⟩ := exists_opener_of_scan hblock
  obtain ⟨nearest, hnearest⟩ : ∃ nearest, IsNearestOpener text p nearest := by
    cases hfound : findLastPair '/' '*' (text.take p) with
    | none => exact absurd ⟨o, pairAt_take_iff.mpr ⟨hopens, hbefore⟩⟩ (findLastPair_eq_none_iff.mp hfound)
    | some nearest => exact ⟨nearest, isNearestOpener_of_findLastPair hfound⟩
  have hle := hnearest.nearest o hopens hbefore
  obtain ⟨i, hi, hlt, hclose⟩ := hclosed nearest hnearest
  -- the scan has not read all of the `*/`, so its slash stands at the position
  obtain rfl : i + 1 = p := by
    refine Nat.le_antisymm hlt (Nat.le_of_not_lt fun hread => ?_)
    exact hopen i (by omega) (by omega) hclose
  have hscan := hstar i (by omega) rfl hclose.1
  refine ⟨Nat.succ_pos i, hclose.1, hclose.2, ?_⟩
  rw [scan_take_succ hclose.2, hscan]
  rfl

/-- A block comment in which the scan is ends with a `*/` before a position that is outside. -/
theorem exists_close_of_scan {n : Nat} (hle : n ≤ p) (hblock : (scan (text.take n)).InBlock)
    (houtside : ¬ (scan (text.take p)).InBlock) :
    ∃ i, n ≤ i + 1 ∧ i + 2 ≤ p ∧ scan (text.take (i + 1)) = .star ∧ text[i + 1]? = some '/' := by
  induction p, hle using Nat.le_induction with
  | base => exact absurd hblock houtside
  | succ p hle ih =>
    by_cases hstill : (scan (text.take p)).InBlock
    · cases hc : text[p]? with
      | none =>
        rw [List.take_add_one, hc, Option.toList_none, List.append_nil] at houtside
        exact absurd hstill houtside
      | some c =>
        rw [scan_take_succ hc] at houtside
        obtain ⟨hstar, rfl⟩ := ScanState.eq_star_of_step hstill houtside
        obtain ⟨i, rfl⟩ : ∃ i, p = i + 1 := by
          refine Nat.exists_eq_succ_of_ne_zero ?_
          rintro rfl
          cases hstar
        exact ⟨i, hle, Nat.le_refl _, hstar, hc⟩
    · obtain ⟨i, hi, hend, hclose⟩ := ih hstill
      exact ⟨i, hi, by omega, hclose⟩

private theorem getElem?_of_scan_eq_star {i : Nat} (hscan : scan (text.take (i + 1)) = .star)
    (hlt : i < text.length) : text[i]? = some '*' := by
  have hscanned := describes_scan (text.take (i + 1))
  rw [hscan] at hscanned
  obtain ⟨rest, ⟨⟨before, htake⟩, -⟩, hlast⟩ := hscanned
  have hend : (text.take (i + 1)).getLast? = some '*' := by
    rw [htake, List.getLast?_append, List.getLast?_cons_cons, List.getLast?_cons, hlast]
    rfl
  rw [List.getLast?_eq_getElem?, List.length_take_of_le hlt, List.getElem?_take_of_lt (by omega)] at hend
  exact hend

/-- A `/*` that opens no block comment and does not stand in one, or whose star is that of the `*/` by
which the comment ends. -/
def IsStray (text : List Char) (o : Nat) : Prop :=
  ¬ (scan (text.take (o + 2))).InBlock ∨
    (scan (text.take (o + 2)) = .star ∧ text[o + 2]? = some '/')

/-- Where the scan is outside of comments, only two things make a difference: slashes that stand before
the position on its line, and the nearest opener, if it is a stray one and no `*/` follows it. -/
theorem isInsideComment_eq_false_iff_of_outside (text : List Char) (p : Nat)
    (houtside : (scan (text.take p)).Outside) :
    isInsideComment text p = false ↔ ¬ SlashesBefore text p ∧
      ∀ o, IsNearestOpener text p o → IsStray text o → ClosedBetween text o p := by
  rw [isInsideComment_eq_false_iff]
  refine and_congr_right fun _ => forall_congr' fun o => forall_congr' fun hnearest => ?_
  refine ⟨fun hclosed _ => hclosed, fun hstray => ?_⟩
  by_cases hcase : IsStray text o
  · exact hstray hcase
  · obtain ⟨hblock, hgoesOn⟩ := not_or.mp hcase
    have hleft : ¬ (scan (text.take p)).InBlock := by
      rcases houtside with h | h <;> simp [h, ScanState.InBlock]
    obtain ⟨i, hi, hend, hstar, hslash⟩ :=
      exists_close_of_scan hnearest.before (not_not.mp hblock) hleft
    have hne : o + 2 ≠ i + 1 := fun heq => hgoesOn (heq ▸ ⟨hstar, hslash⟩)
    have hlt := (List.getElem?_eq_some_iff.mp hslash).1
    exact ⟨i, by omega, by omega, getElem?_of_scan_eq_star hstar (by omega), hslash⟩

/-- An opener in a line comment, with a `*/` after it that ends nothing. -/
theorem isInsideComment_eq_false_iff_of_outside_closed :
    let text := "// /*\n*/f".toList
    (scan (text.take 8)).Outside ∧ isInsideComment text 8 = false ∧ ¬ SlashesBefore text 8 ∧
      IsNearestOpener text 8 3 ∧ IsStray text 3 ∧ ClosedBetween text 3 8 := by
  intro text
  have houtside : (scan (text.take 8)).Outside := by decide
  have hjudged : isInsideComment text 8 = false := by decide
  have hnearest : IsNearestOpener text 8 3 := isNearestOpener_of_findLastPair (by decide)
  have hstray : IsStray text 3 := .inl (by decide)
  obtain ⟨hslashes, hclosed⟩ := (isInsideComment_eq_false_iff_of_outside text 8 houtside).mp hjudged
  exact ⟨houtside, hjudged, hslashes, hnearest, hstray, hclosed 3 hnearest hstray⟩

/-- What follows a comment may be judged to be inside: after an opener in a line comment, after slashes
in a block comment that has ended on the line, and after an opener that shares its star with the end of
the block comment. -/
theorem isInsideComment_after_comment :
    ¬ ((scan ("// /*\nf".toList.take 6)).Outside → isInsideComment "// /*\nf".toList 6 = false) ∧
    ¬ ((scan ("/* // */f".toList.take 8)).Outside → isInsideComment "/* // */f".toList 8 = false) ∧
    ¬ ((scan ("/* /*/ f".toList.take 7)).Outside → isInsideComment "/* /*/ f".toList 7 = false) := by
  decide

end Position

end CodeTwins.Source
