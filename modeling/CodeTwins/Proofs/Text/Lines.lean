import CodeTwins.Embedding.Chunk
import CodeTwins.Source.Comment
import Mathlib.Data.List.TakeWhile

/-!
# Lines and the places in them

The lines of a text end with their newline, but for the last, which may have none. Every place before
the end of a text stands in one line: what comes after the last newline before the place, and what comes
up to the first newline after it, make up that line.
-/
namespace CodeTwins

namespace Source

/-- The part of a text up to its first newline, with the newline. -/
def firstLine : List Char → List Char
  | [] => []
  | c :: cs => if c = '\n' then [c] else c :: firstLine cs

private theorem firstLine_of_notMem {cs : List Char} (h : '\n' ∉ cs) : firstLine cs = cs := by
  induction cs with
  | nil => rfl
  | cons c cs ih =>
    obtain ⟨hc, hcs⟩ := not_or.mp (List.mem_cons.not.mp h)
    rw [firstLine, if_neg (Ne.symm hc), ih hcs]

private theorem firstLine_append_newline {line : List Char} (h : '\n' ∉ line) (rest : List Char) :
    firstLine (line ++ '\n' :: rest) = line ++ ['\n'] := by
  induction line with
  | nil => rfl
  | cons c cs ih =>
    obtain ⟨hc, hcs⟩ := not_or.mp (List.mem_cons.not.mp h)
    rw [List.cons_append, firstLine, if_neg (Ne.symm hc), ih hcs, List.cons_append]

theorem lastLine_of_notMem {cs : List Char} (h : '\n' ∉ cs) : lastLine cs = cs := by
  have hall : cs.reverse.takeWhile (· != '\n') = cs.reverse := by
    rw [List.takeWhile_eq_self_iff]
    intro c hc
    have hne : c ≠ '\n' := fun heq => h (heq ▸ List.mem_reverse.mp hc)
    simpa using hne
  rw [lastLine, hall, List.reverse_reverse]

theorem lastLine_append_newline (cs rest : List Char) :
    lastLine (cs ++ '\n' :: rest) = lastLine rest := by
  unfold lastLine
  rw [List.reverse_append, List.reverse_cons, List.append_assoc, List.singleton_append,
    List.takeWhile_append]
  split
  case isTrue hwhole =>
    have hself := (List.takeWhile_prefix _).eq_of_length hwhole
    rw [List.takeWhile_cons_of_neg (by simp), List.append_nil, hself]
  case isFalse => rfl

end Source

namespace Embedding

open Source

/-- Lines that follow one another in a text. -/
inductive AreLines : List (List Char) → Prop where
  | nil : AreLines []
  | last {line : List Char} (hne : line ≠ []) (hline : '\n' ∉ line) : AreLines [line]
  | cons {line : List Char} {lines : List (List Char)} (hline : '\n' ∉ line)
      (hlines : AreLines lines) : AreLines ((line ++ ['\n']) :: lines)

theorem areLines_linesKept (cs : List Char) : AreLines (linesKept cs) := by
  induction cs with
  | nil => exact .nil
  | cons c cs ih =>
    unfold linesKept
    split
    case isTrue hnewline =>
      subst hnewline
      have hline : '\n' ∉ ([] : List Char) := List.not_mem_nil
      exact .cons hline ih
    case isFalse hc =>
      generalize linesKept cs = lines at ih
      cases ih with
      | nil => exact .last (List.cons_ne_nil c []) (by simpa using Ne.symm hc)
      | last hne hline => exact .last (List.cons_ne_nil c _) (by simpa [hline] using Ne.symm hc)
      | @cons line _ hline hlines =>
        have hline' : '\n' ∉ c :: line := by simpa [hline] using Ne.symm hc
        exact .cons hline' hlines

theorem AreLines.ne_nil {lines : List (List Char)} (h : AreLines lines) :
    ∀ line ∈ lines, line ≠ [] := by
  induction h with
  | nil => exact nofun
  | last hne _ => simpa using hne
  | cons _ _ ih => simpa using ih

/-- A place in a text stands in a line: the line is what comes after the last newline before the place
and what comes up to the first newline after it. -/
structure StandsIn (lines : List (List Char)) (before after : List Char)
    (earlier : List (List Char)) (front back : List Char) (later : List (List Char)) : Prop where
  lines_eq : lines = earlier ++ (front ++ back) :: later
  before_eq : before = earlier.flatten ++ front
  back_ne_nil : back ≠ []
  lastLine_eq : lastLine before = front
  firstLine_eq : firstLine after = back

/-- Every place before the end of a text stands in a line of it. -/
theorem AreLines.exists_standsIn {lines : List (List Char)} (h : AreLines lines)
    {before after : List Char} (hsplit : before ++ after = lines.flatten) (hafter : after ≠ []) :
    ∃ earlier front back later, StandsIn lines before after earlier front back later := by
  induction h generalizing before with
  | nil => exact absurd (List.append_eq_nil_iff.mp hsplit).2 hafter
  | @last line hne hline =>
    have hline' : '\n' ∉ before ++ after := by simpa [hsplit] using hline
    rw [List.mem_append, not_or] at hline'
    exact ⟨[], before, after, [], by simpa using hsplit.symm, rfl, hafter,
      lastLine_of_notMem hline'.1, firstLine_of_notMem hline'.2⟩
  | @cons line lines hline hlines ih =>
    rw [List.flatten_cons, List.append_assoc, List.singleton_append] at hsplit
    rcases List.append_eq_append_iff.mp hsplit with ⟨rest, rfl, hrest⟩ | ⟨rest, rfl, hrest⟩
    · -- the place stands before the newline of the first line
      rw [List.mem_append, not_or] at hline
      refine ⟨[], before, rest ++ ['\n'], lines, ?_, rfl, by simp, lastLine_of_notMem hline.1, ?_⟩
      · rw [List.append_assoc, List.nil_append]
      · rw [hrest, firstLine_append_newline hline.2]
    · cases rest with
      | nil =>
        rw [List.nil_append] at hrest
        refine ⟨[], line, ['\n'], lines, rfl, List.append_nil _, by simp, ?_, ?_⟩
        · rw [List.append_nil, lastLine_of_notMem hline]
        · rw [← hrest]
          exact firstLine_append_newline List.not_mem_nil _
      | cons c rest =>
        obtain ⟨rfl, hflatten⟩ := List.cons.inj hrest
        obtain ⟨earlier, front, back, later, hlines, hbefore, hback, hlast, hfirst⟩ :=
          ih hflatten.symm
        refine ⟨(line ++ ['\n']) :: earlier, front, back, later, ?_, ?_, hback, ?_, hfirst⟩
        · rw [hlines, List.cons_append]
        · rw [hbefore, List.flatten_cons]
          simp only [List.append_assoc, List.cons_append, List.nil_append]
        · rw [lastLine_append_newline, hlast]

end Embedding

end CodeTwins
