import CodeTwins.Embedding.Chunk
import Mathlib.Data.List.TakeWhile

/-!
# What chunks are left of a text

The pieces of a text, before they are trimmed, are the text. So a text that is longer than the limit
is left without chunks if and only if it is nothing but white space.
-/
namespace CodeTwins.Text

variable {p : Char → Bool} {s : List Char}

private theorem forall_mem_trimStart : (∀ c ∈ trimStart p s, p c = true) ↔ ∀ c ∈ s, p c = true := by
  have hsplit : s = s.takeWhile p ++ trimStart p s := List.takeWhile_append_dropWhile.symm
  constructor
  · intro h c hc
    rw [hsplit] at hc
    rcases List.mem_append.mp hc with hstart | hrest
    · exact List.mem_takeWhile_imp hstart
    · exact h c hrest
  · intro h c hc
    exact h c ((List.dropWhile_sublist p).subset hc)

private theorem forall_mem_trimEnd : (∀ c ∈ trimEnd p s, p c = true) ↔ ∀ c ∈ s, p c = true := by
  have hreverse := forall_mem_trimStart (p := p) (s := s.reverse)
  simpa only [trimStart, trimEnd, List.mem_reverse] using hreverse

private theorem forall_mem_trim :
    (∀ c ∈ trim s, Unicode.isSpace c = true) ↔ ∀ c ∈ s, Unicode.isSpace c = true :=
  forall_mem_trimEnd.trans forall_mem_trimStart

private theorem trim_eq_nil_iff : trim s = [] ↔ ∀ c ∈ s, Unicode.isSpace c = true := by
  constructor
  · intro h
    rw [← forall_mem_trim, h]
    simp
  · intro h
    have hstart : trimStart Unicode.isSpace s = [] := List.dropWhile_eq_nil_iff.mpr h
    rw [trim, hstart]
    rfl

end CodeTwins.Text

namespace CodeTwins.Embedding

theorem isBlank_iff {text : List Char} :
    isBlank text = true ↔ ∀ c ∈ text, Unicode.isSpace c = true := by
  rw [isBlank, List.isEmpty_iff, Text.trim_eq_nil_iff]

/-- To trim a piece does not change whether it is blank. -/
theorem isBlank_chunk (piece : Piece) : isBlank piece.chunk = isBlank piece.source := by
  cases piece with
  | cut text => rfl
  | packed text =>
    rw [Bool.eq_iff_iff, isBlank_iff, isBlank_iff]
    exact Text.forall_mem_trim

private theorem isBlank_flatMap_source (pieces : List Piece) :
    isBlank (pieces.flatMap Piece.source) = true ↔
      ∀ piece ∈ pieces, isBlank piece.source = true := by
  simp only [isBlank_iff, List.mem_flatMap, forall_exists_index, and_imp]
  exact ⟨fun h piece hpiece c => h c piece hpiece, fun h c piece hpiece => h piece hpiece c⟩

theorem flatten_linesKept (cs : List Char) : (linesKept cs).flatten = cs := by
  induction cs with
  | nil => rfl
  | cons c cs ih =>
    unfold linesKept
    split
    · rw [List.flatten_cons, ih, List.singleton_append]
    · split
      case h_1 hnone =>
        rw [hnone] at ih
        rw [← ih]
        rfl
      case h_2 hlines =>
        rw [hlines] at ih
        rw [← ih]
        rfl

private theorem source_cutLine (limit : Nat) (line : List Char) :
    (cutLine limit line).1.flatMap Piece.source ++ (cutLine limit line).2 = line := by
  fun_induction cutLine limit line with
  | case1 line hlong pieces rest hcut ih =>
    rw [hcut] at ih
    rw [List.flatMap_cons, List.append_assoc, ih, Piece.source, List.take_append_drop]
  | case2 line hshort => rfl

theorem source_flush (current : List Char) : (flush current).flatMap Piece.source = current := by
  cases current with
  | nil => rfl
  | cons c cs => exact List.append_nil _

private theorem source_pack (limit : Nat) (current : List Char) (lines : List (List Char)) :
    (pack limit current lines).flatMap Piece.source = current ++ lines.flatten := by
  induction lines generalizing current with
  | nil => rw [pack, source_flush, List.flatten_nil, List.append_nil]
  | cons line lines ih =>
    unfold pack
    split
    · have hline := source_cutLine limit line
      rcases hcut : cutLine limit line with ⟨pieces, rest⟩
      rw [hcut] at hline
      dsimp only at hline ⊢
      rw [List.flatMap_append, List.flatMap_append, source_flush, ih, List.flatten_cons, ← hline]
      simp only [List.append_assoc]
    · split
      · rw [List.flatMap_append, source_flush, ih, List.flatten_cons]
      · rw [ih, List.flatten_cons, List.append_assoc]

/-- The pieces of a text are the text. -/
theorem source_pieces (limit : Nat) (text : List Char) :
    (pieces limit text).flatMap Piece.source = text := by
  rw [pieces, source_pack, List.nil_append, flatten_linesKept]

theorem chunks_eq_nil_iff {limit : Nat} {text : String} :
    chunks limit text = [] ↔ limit < text.toList.length ∧ isBlank text.toList = true := by
  simp only [chunks]
  split
  case isTrue hshort => simp [Nat.not_lt.mpr hshort]
  case isFalse hlong =>
    have hblank := isBlank_flatMap_source (pieces limit text.toList)
    rw [source_pieces] at hblank
    rw [List.map_eq_nil_iff, List.filter_eq_nil_iff, hblank]
    simp [isBlank_chunk, Nat.lt_of_not_le hlong]

end CodeTwins.Embedding
