import CodeTwins.Proofs.Embedding.Chunk
import CodeTwins.Proofs.Text.Lines
import Mathlib.Data.List.Forall2

/-!
# Where a text is cut

A text that is longer than the limit is cut into pieces that are not. Inside of a line there are cuts
only if the line is longer than the limit, and then they are at the multiples of the limit. At the start
of a line there is a cut only if the line has no room in the piece before it. The chunks are the pieces,
trimmed or as they are, without the blank ones, so that nothing but white space is lost.
-/
namespace CodeTwins.Text

variable {p : Char → Bool} {s : List Char}

private theorem filter_trimStart : (trimStart p s).filter (!p ·) = s.filter (!p ·) := by
  have hstart : (s.takeWhile p).filter (!p ·) = [] :=
    List.filter_eq_nil_iff.mpr fun c hc => by simp [List.mem_takeWhile_imp hc]
  calc (trimStart p s).filter (!p ·)
      = (s.takeWhile p ++ trimStart p s).filter (!p ·) := by rw [List.filter_append, hstart]; rfl
    _ = s.filter (!p ·) := by rw [trimStart, List.takeWhile_append_dropWhile]

private theorem filter_trimEnd : (trimEnd p s).filter (!p ·) = s.filter (!p ·) := by
  have hreverse := filter_trimStart (p := p) (s := s.reverse)
  rw [trimEnd, List.filter_reverse, ← trimStart, hreverse, List.filter_reverse, List.reverse_reverse]

/-- To trim a text takes only white space away. -/
theorem filter_trim : (trim s).filter (!Unicode.isSpace ·) = s.filter (!Unicode.isSpace ·) :=
  filter_trimEnd.trans filter_trimStart

private theorem trim_sublist : (trim s).Sublist s := by
  have hend : (trim s).Sublist (trimStart Unicode.isSpace s).reverse.reverse :=
    List.reverse_sublist.mpr (List.dropWhile_sublist _)
  rw [List.reverse_reverse] at hend
  exact hend.trans (List.dropWhile_sublist _)

end CodeTwins.Text

namespace CodeTwins.Embedding

open Source

section Pieces

variable {first more : List (List Char)} {front piece : List Char}

/-- A piece ends where the given part of the text ends. -/
def EndsAt (pieces : List (List Char)) (before piece : List Char) : Prop :=
  ∃ done todo, pieces = done ++ piece :: todo ∧ done.flatten ++ piece = before

/-- Pieces that end after the first ones are found among the others. -/
theorem endsAt_append_iff (hfront : front ≠ []) :
    EndsAt (first ++ more) (first.flatten ++ front) piece ↔ EndsAt more front piece := by
  constructor
  · rintro ⟨done, todo, hpieces, hbefore⟩
    rcases List.append_eq_append_iff.mp hpieces with ⟨rest, rfl, hmore⟩ | ⟨rest, rfl, htodo⟩
    · refine ⟨rest, todo, hmore, ?_⟩
      rw [List.flatten_append, List.append_assoc] at hbefore
      exact List.append_cancel_left hbefore
    · -- the piece would end within the first ones
      cases rest with
      | nil =>
        refine ⟨[], todo, htodo.symm, ?_⟩
        rw [List.append_nil] at hbefore
        exact List.append_cancel_left hbefore
      | cons p rest =>
        obtain ⟨rfl, -⟩ := List.cons.inj htodo
        rw [List.flatten_append, List.flatten_cons, List.append_assoc, List.append_assoc] at hbefore
        have hlength := congrArg List.length hbefore
        have hpos := List.length_pos_iff.mpr hfront
        simp only [List.length_append] at hlength
        omega
  · rintro ⟨done, todo, rfl, rfl⟩
    exact ⟨first ++ done, todo, by simp, by simp⟩

/-- No piece ends inside of the first one. -/
theorem not_endsAt_of_lt {p : List Char} (hfront : front.length < p.length) :
    ¬ EndsAt (p :: more) front piece := by
  rintro ⟨done, todo, hpieces, rfl⟩
  cases done with
  | nil =>
    obtain ⟨rfl, -⟩ := List.cons.inj hpieces
    exact Nat.lt_irrefl _ hfront
  | cons _ done =>
    obtain ⟨rfl, -⟩ := List.cons.inj hpieces
    simp only [List.flatten_cons, List.length_append] at hfront
    omega

/-- Only the first piece ends where it ends, if none is empty. -/
theorem endsAt_head_iff {p : List Char} (hpieces : ∀ q ∈ p :: more, q ≠ []) :
    EndsAt (p :: more) p piece ↔ piece = p := by
  constructor
  · rintro ⟨done, todo, heq, hbefore⟩
    cases done with
    | nil => exact hbefore
    | cons _ done =>
      obtain ⟨rfl, hmore⟩ := List.cons.inj heq
      have hmem : piece ∈ more := hmore ▸ List.mem_append_right done (.head _)
      have hpiece : piece ≠ [] := hpieces piece (List.mem_cons_of_mem _ hmem)
      rw [List.flatten_cons, List.append_assoc, List.append_right_eq_self] at hbefore
      exact absurd (List.append_eq_nil_iff.mp hbefore).2 hpiece
  · rintro rfl
    exact ⟨[], more, rfl, rfl⟩

end Pieces

section Line

variable {limit : Nat} {line rest : List Char} {pieces : List (List Char)}

/-- Pieces of the length of the limit are cut off as long as what is left is longer. Nothing is said
here that would bring this to an end if the limit were zero. -/
inductive CutsTo (limit : Nat) : List Char → List (List Char) → List Char → Prop where
  | whole {line : List Char} (hshort : line.length ≤ limit) : CutsTo limit line [] line
  | cut {line rest : List Char} {pieces : List (List Char)} (hlong : limit < line.length)
      (hrest : CutsTo limit (line.drop limit) pieces rest) :
      CutsTo limit line (line.take limit :: pieces) rest

/-- A line of any length is cut to the end. -/
theorem cutsTo_cutLine (hlimit : 0 < limit) (line : List Char) :
    CutsTo limit line ((cutLine limit line).1.map Piece.source) (cutLine limit line).2 := by
  fun_induction cutLine limit line with
  | case1 line hlong pieces rest hcut ih =>
    rw [hcut] at ih
    exact .cut hlong.2 ih
  | case2 line hshort => exact .whole (Nat.not_lt.mp fun hlong => hshort ⟨hlimit, hlong⟩)

private theorem CutsTo.append (h : CutsTo limit line pieces rest) :
    pieces.flatten ++ rest = line := by
  induction h with
  | whole => rfl
  | cut _ _ ih => rw [List.flatten_cons, List.append_assoc, ih, List.take_append_drop]

private theorem CutsTo.length_eq (h : CutsTo limit line pieces rest) :
    ∀ piece ∈ pieces, piece.length = limit := by
  induction h with
  | whole => exact nofun
  | cut hlong _ ih =>
    have hfull := List.length_take_of_le (Nat.le_of_lt hlong)
    exact List.forall_mem_cons.mpr ⟨hfull, ih⟩

private theorem CutsTo.length_rest_le (h : CutsTo limit line pieces rest) : rest.length ≤ limit := by
  induction h with
  | whole hshort => exact hshort
  | cut _ _ ih => exact ih

private theorem CutsTo.rest_ne_nil (h : CutsTo limit line pieces rest) (hline : line ≠ []) :
    rest ≠ [] := by
  induction h with
  | whole => exact hline
  | cut hlong _ ih =>
    refine ih fun hnil => ?_
    rw [List.drop_eq_nil_iff] at hnil
    omega

/-- Inside of a line that has been cut, pieces end at the multiples of the limit. -/
theorem CutsTo.endsAt_iff (h : CutsTo limit line pieces rest) {more : List (List Char)}
    {front back : List Char} (hline : front ++ back = line)
    (hmore : ∀ front piece, front.length < rest.length → ¬ EndsAt more front piece)
    (hfront : front ≠ []) (hback : back ≠ []) :
    (∃ piece, EndsAt (pieces ++ more) front piece) ↔ limit ∣ front.length := by
  have hpos := List.length_pos_iff.mpr hfront
  have hpos' := List.length_pos_iff.mpr hback
  induction h generalizing front with
  | whole hshort =>
    have hlength := congrArg List.length hline
    rw [List.length_append] at hlength
    refine iff_of_false (fun ⟨piece, hpiece⟩ => hmore front piece (by omega) hpiece) fun hdvd => ?_
    have hle := Nat.le_of_dvd hpos hdvd
    omega
  | @cut line rest pieces hlong _ ih =>
    have hfull := List.length_take_of_le (Nat.le_of_lt hlong)
    rcases Nat.lt_trichotomy front.length limit with hlt | heq | hgt
    · refine iff_of_false (fun ⟨piece, hpiece⟩ => ?_) fun hdvd => ?_
      · exact not_endsAt_of_lt (hlt.trans_eq hfull.symm) hpiece
      · exact Nat.not_le_of_lt hlt (Nat.le_of_dvd hpos hdvd)
    · have hpiece : line.take limit = front := by
        rw [← hline, ← heq, List.take_left]
      exact iff_of_true ⟨_, [], pieces ++ more, rfl, hpiece⟩ (heq ▸ Nat.dvd_refl _)
    · obtain ⟨later, rfl⟩ : ∃ later, front = line.take limit ++ later := by
        refine ⟨front.drop limit, ?_⟩
        rw [← hline, List.take_append_of_le_length (Nat.le_of_lt hgt), List.take_append_drop]
      have hdrop : later ++ back = line.drop limit := by
        rw [List.append_assoc] at hline
        exact List.append_cancel_left (hline.trans (List.take_append_drop limit line).symm)
      rw [List.length_append, hfull] at hgt ⊢
      have hlater : later ≠ [] := List.ne_nil_of_length_pos (by omega)
      have hshift : ∀ piece, EndsAt (line.take limit :: (pieces ++ more))
          (line.take limit ++ later) piece ↔ EndsAt (pieces ++ more) later piece := by
        intro piece
        have happend := @endsAt_append_iff [line.take limit] (pieces ++ more) later piece hlater
        rwa [List.singleton_append, List.flatten_singleton] at happend
      rw [List.cons_append, exists_congr hshift, Nat.dvd_add_right (Nat.dvd_refl limit)]
      exact ih hdrop hmore hlater (List.length_pos_iff.mpr hlater)

end Line

section Lines

variable {limit : Nat} {current line : List Char} {lines pieces : List (List Char)}

/-- What has been collected is one piece, unless it is nothing. -/
def flushed (current : List Char) : List (List Char) :=
  (flush current).map Piece.source

private theorem flushed_of_ne_nil (h : current ≠ []) : flushed current = [current] := by
  cases current with
  | nil => exact absurd rfl h
  | cons => rfl

private theorem flatten_flushed (current : List Char) : (flushed current).flatten = current := by
  rw [flushed, ← List.flatMap_def, source_flush]

private theorem mem_flushed {piece : List Char} (h : piece ∈ flushed current) :
    piece = current ∧ piece ≠ [] := by
  cases current with
  | nil => cases h
  | cons c cs =>
    obtain rfl := List.mem_singleton.mp h
    exact ⟨rfl, List.cons_ne_nil c cs⟩

/-- How lines are packed into pieces, with what has been collected before them. A line that is too long
is cut, and what is left of it is collected. A line that has no room is collected alone, and any other
together with what has been collected before. -/
inductive PacksTo (limit : Nat) : List Char → List (List Char) → List (List Char) → Prop where
  | done {current : List Char} : PacksTo limit current [] (flushed current)
  | long {current line rest : List Char} {lines cuts pieces : List (List Char)}
      (hlong : limit < line.length) (hcut : CutsTo limit line cuts rest)
      (hlines : PacksTo limit rest lines pieces) :
      PacksTo limit current (line :: lines) (flushed current ++ (cuts ++ pieces))
  | full {current line : List Char} {lines pieces : List (List Char)}
      (hshort : line.length ≤ limit) (hfull : limit < current.length + line.length)
      (hlines : PacksTo limit line lines pieces) :
      PacksTo limit current (line :: lines) (flushed current ++ pieces)
  | fits {current line : List Char} {lines pieces : List (List Char)}
      (hfits : current.length + line.length ≤ limit)
      (hlines : PacksTo limit (current ++ line) lines pieces) :
      PacksTo limit current (line :: lines) pieces

private theorem packsTo_pack (hlimit : 0 < limit) (current : List Char) (lines : List (List Char)) :
    PacksTo limit current lines ((pack limit current lines).map Piece.source) := by
  induction lines generalizing current with
  | nil => exact .done
  | cons line lines ih =>
    unfold pack
    split
    case isTrue hlong =>
      rw [List.map_append, List.map_append, List.append_assoc]
      exact .long hlong (cutsTo_cutLine hlimit line) (ih _)
    case isFalse hshort =>
      split
      case isTrue hfull =>
        rw [List.map_append]
        exact .full (Nat.not_lt.mp hshort) hfull (ih line)
      case isFalse hfits => exact .fits (Nat.not_lt.mp hfits) (ih (current ++ line))

/-- Pieces are not empty and not longer than the limit. -/
theorem PacksTo.bounds (h : PacksTo limit current lines pieces) (hlimit : 0 < limit)
    (hlines : ∀ line ∈ lines, line ≠ []) (hcurrent : current.length ≤ limit) :
    ∀ piece ∈ pieces, piece ≠ [] ∧ piece.length ≤ limit := by
  have hflushed : ∀ {current : List Char}, current.length ≤ limit → ∀ piece ∈ flushed current,
      piece ≠ [] ∧ piece.length ≤ limit := by
    intro current hcurrent piece hpiece
    obtain ⟨rfl, hne⟩ := mem_flushed hpiece
    exact ⟨hne, hcurrent⟩
  induction h with
  | done => exact hflushed hcurrent
  | long hlong hcut _ ih =>
    have hcuts : ∀ piece ∈ _, piece ≠ [] ∧ piece.length ≤ limit := fun piece hpiece => by
      have hlength := hcut.length_eq piece hpiece
      exact ⟨List.ne_nil_of_length_pos (by omega), by omega⟩
    have hmore := ih (List.forall_mem_cons.mp hlines).2 hcut.length_rest_le
    exact List.forall_mem_append.mpr ⟨hflushed hcurrent, List.forall_mem_append.mpr ⟨hcuts, hmore⟩⟩
  | full hshort _ _ ih =>
    have hmore := ih (List.forall_mem_cons.mp hlines).2 hshort
    exact List.forall_mem_append.mpr ⟨hflushed hcurrent, hmore⟩
  | fits hfits _ ih =>
    exact ih (List.forall_mem_cons.mp hlines).2 (by rwa [List.length_append])

/-- The first piece starts with what has been collected. -/
theorem PacksTo.exists_head (h : PacksTo limit current lines pieces) (hcurrent : current ≠ []) :
    ∃ piece more, pieces = piece :: more ∧ current <+: piece := by
  induction h with
  | done => exact ⟨_, [], flushed_of_ne_nil hcurrent, List.prefix_rfl⟩
  | long => exact ⟨_, _, by rw [flushed_of_ne_nil hcurrent]; rfl, List.prefix_rfl⟩
  | full => exact ⟨_, _, by rw [flushed_of_ne_nil hcurrent]; rfl, List.prefix_rfl⟩
  | fits _ _ ih =>
    obtain ⟨piece, more, rfl, hprefix⟩ := ih (List.append_ne_nil_of_left_ne_nil hcurrent _)
    exact ⟨piece, more, rfl, (List.prefix_append _ _).trans hprefix⟩

/-- No piece ends inside of what has been collected. -/
theorem PacksTo.not_endsAt (h : PacksTo limit current lines pieces) {front piece : List Char}
    (hfront : front.length < current.length) : ¬ EndsAt pieces front piece := by
  have hcurrent : current ≠ [] := List.ne_nil_of_length_pos (by omega)
  obtain ⟨first, more, rfl, hprefix⟩ := h.exists_head hcurrent
  exact not_endsAt_of_lt (Nat.lt_of_lt_of_le hfront hprefix.length_le)

private theorem endsAt_flushed_iff {more : List (List Char)} {front piece : List Char}
    (hfront : front ≠ []) :
    EndsAt (flushed current ++ more) (current ++ front) piece ↔ EndsAt more front piece := by
  have happend := @endsAt_append_iff (flushed current) more front piece hfront
  rwa [flatten_flushed] at happend

/-- Inside of the first line, pieces end at the multiples of the limit if the line is too long, and
else nowhere. -/
theorem PacksTo.endsAt_inside_iff {front back : List Char}
    (h : PacksTo limit current ((front ++ back) :: lines) pieces) (hfront : front ≠ [])
    (hback : back ≠ []) :
    (∃ piece, EndsAt pieces (current ++ front) piece) ↔
      limit < (front ++ back).length ∧ limit ∣ front.length := by
  have hinside : front.length < (front ++ back).length := by
    have hpos := List.length_pos_iff.mpr hback
    rw [List.length_append]
    omega
  cases h with
  | long hlong hcut hlines =>
    rw [exists_congr fun piece => endsAt_flushed_iff hfront, and_iff_right hlong]
    exact hcut.endsAt_iff rfl (fun _ _ => hlines.not_endsAt) hfront hback
  | full hshort _ hlines =>
    rw [exists_congr fun piece => endsAt_flushed_iff hfront]
    exact iff_of_false (fun ⟨piece, hpiece⟩ => hlines.not_endsAt hinside hpiece) (by omega)
  | fits hfits hlines =>
    refine iff_of_false (fun ⟨piece, hpiece⟩ => hlines.not_endsAt ?_ hpiece) (by omega)
    rw [List.length_append, List.length_append]
    exact Nat.add_lt_add_left hinside _

/-- A piece ends before the first line only if the line has no room in it. -/
theorem PacksTo.lt_of_endsAt (h : PacksTo limit current (line :: lines) pieces) {piece : List Char}
    (hpieces : ∀ p ∈ pieces, p ≠ []) (hline : line ≠ []) (hends : EndsAt pieces current piece) :
    limit < piece.length + line.length := by
  cases h with
  | long hlong => omega
  | full hshort hfull _ =>
    have hcurrent : current ≠ [] := by
      rintro rfl
      exact Nat.not_lt.mpr hshort (by simpa using hfull)
    rw [flushed_of_ne_nil hcurrent] at hpieces hends
    obtain rfl := (endsAt_head_iff hpieces).mp hends
    exact hfull
  | fits _ hlines =>
    refine absurd hends (hlines.not_endsAt ?_)
    rw [List.length_append]
    exact Nat.lt_add_of_pos_right (List.length_pos_iff.mpr hline)

/-- After the first line, it goes on with what is collected then. -/
theorem PacksTo.exists_next (h : PacksTo limit current (line :: lines) pieces) (hline : line ≠ []) :
    ∃ next more, PacksTo limit next lines more ∧ (∀ p ∈ more, p ∈ pieces) ∧
      ∀ front piece, EndsAt pieces (current ++ (line ++ front)) piece ↔
        EndsAt more (next ++ front) piece := by
  have hfront : ∀ front, line ++ front ≠ [] := List.append_ne_nil_of_left_ne_nil hline
  cases h with
  | @long _ _ rest _ cuts more _ hcut hlines =>
    refine ⟨rest, more, hlines, fun p hp => by simp [hp], fun front piece => ?_⟩
    have hrest := List.append_ne_nil_of_left_ne_nil (hcut.rest_ne_nil hline) front
    rw [endsAt_flushed_iff (hfront front), ← hcut.append, List.append_assoc]
    exact endsAt_append_iff hrest
  | @full _ _ _ more _ _ hlines =>
    exact ⟨line, more, hlines, fun p hp => by simp [hp], fun front _ =>
      endsAt_flushed_iff (hfront front)⟩
  | fits _ hlines =>
    exact ⟨current ++ line, pieces, hlines, fun _ hp => hp, fun front _ => by rw [List.append_assoc]⟩

/-- After any number of lines, it goes on with what is collected then. -/
theorem PacksTo.exists_after {earlier : List (List Char)}
    (h : PacksTo limit current (earlier ++ lines) pieces) (hearlier : ∀ line ∈ earlier, line ≠ []) :
    ∃ next more, PacksTo limit next lines more ∧ (∀ p ∈ more, p ∈ pieces) ∧
      ∀ front piece, EndsAt pieces (current ++ (earlier.flatten ++ front)) piece ↔
        EndsAt more (next ++ front) piece := by
  induction earlier generalizing current pieces with
  | nil => exact ⟨current, pieces, h, fun _ hp => hp, fun _ _ => Iff.rfl⟩
  | cons line earlier ih =>
    obtain ⟨hline, hearlier⟩ := List.forall_mem_cons.mp hearlier
    obtain ⟨middle, rest, hrest, hmem, hmiddle⟩ := h.exists_next hline
    obtain ⟨next, more, hmore, hmem', hnext⟩ := ih hrest hearlier
    refine ⟨next, more, hmore, fun p hp => hmem p (hmem' p hp), fun front piece => ?_⟩
    rw [List.flatten_cons, List.append_assoc, hmiddle, hnext]

end Lines

section Text

/-- Pieces of a text that are cut at the right places: each is not longer than the limit, there is a cut
inside of a line only if the line, with its newline, is longer than the limit, and then exactly at the
multiples of the limit, and at the start of a line only if the line has no room in the piece before. -/
structure IsCutting (limit : Nat) (text : List Char) (pieces : List (List Char)) : Prop where
  whole : pieces.flatten = text
  nonempty : ∀ piece ∈ pieces, piece ≠ []
  short : ∀ piece ∈ pieces, piece.length ≤ limit
  inLine : ∀ before after, before ++ after = text → after ≠ [] → lastLine before ≠ [] →
    ((∃ piece, EndsAt pieces before piece) ↔
      limit < (lastLine before ++ firstLine after).length ∧ limit ∣ (lastLine before).length)
  atLine : ∀ before after piece, before ++ after = text → after ≠ [] → lastLine before = [] →
    EndsAt pieces before piece → limit < piece.length + (firstLine after).length

private theorem isCutting_pieces {limit : Nat} (hlimit : 0 < limit) (text : List Char) :
    IsCutting limit text ((pieces limit text).map Piece.source) := by
  have hlines := areLines_linesKept text
  have hpacks : PacksTo limit [] (linesKept text) ((pieces limit text).map Piece.source) :=
    packsTo_pack hlimit [] (linesKept text)
  have hbounds := hpacks.bounds hlimit hlines.ne_nil (Nat.zero_le limit)
  -- how the pieces go on from the line in which a place stands
  have hreach : ∀ {before after earlier front back later},
      StandsIn (linesKept text) before after earlier front back later →
      ∃ next more, PacksTo limit next ((front ++ back) :: later) more ∧ (∀ p ∈ more, p ≠ []) ∧
        ∀ piece, EndsAt ((pieces limit text).map Piece.source) before piece ↔
          EndsAt more (next ++ front) piece := by
    intro before after earlier front back later hplace
    have hne := hlines.ne_nil
    rw [hplace.lines_eq] at hpacks hne
    obtain ⟨next, more, hmore, hmem, hnext⟩ := hpacks.exists_after (List.forall_mem_append.mp hne).1
    refine ⟨next, more, hmore, fun p hp => (hbounds p (hmem p hp)).1, fun piece => ?_⟩
    rw [hplace.before_eq]
    exact hnext front piece
  refine ⟨?_, fun piece hp => (hbounds piece hp).1, fun piece hp => (hbounds piece hp).2, ?_, ?_⟩
  · rw [← List.flatMap_def, source_pieces]
  · intro before after hsplit hafter hinside
    rw [← flatten_linesKept text] at hsplit
    obtain ⟨earlier, front, back, later, hplace⟩ := hlines.exists_standsIn hsplit hafter
    obtain ⟨next, more, hmore, -, hnext⟩ := hreach hplace
    rw [hplace.lastLine_eq] at hinside ⊢
    rw [hplace.firstLine_eq, exists_congr hnext]
    exact hmore.endsAt_inside_iff hinside hplace.back_ne_nil
  · intro before after piece hsplit hafter hstart hends
    rw [← flatten_linesKept text] at hsplit
    obtain ⟨earlier, front, back, later, hplace⟩ := hlines.exists_standsIn hsplit hafter
    obtain ⟨next, more, hmore, hne, hnext⟩ := hreach hplace
    obtain rfl : front = [] := hplace.lastLine_eq.symm.trans hstart
    rw [hnext, List.append_nil] at hends
    rw [hplace.firstLine_eq]
    exact hmore.lt_of_endsAt hne hplace.back_ne_nil hends

/-- A blank text has nothing but white space to lose. -/
theorem filter_of_isBlank {text : List Char} (h : isBlank text = true) :
    text.filter (!Unicode.isSpace ·) = [] := by
  rw [List.filter_eq_nil_iff]
  intro c hc
  simp [isBlank_iff.mp h c hc]

/-- A chunk is a piece as it is or trimmed. -/
def IsChunkOf (piece chunk : List Char) : Prop :=
  chunk = piece ∨ chunk = Text.trim piece

private theorem IsChunkOf.filter_eq {piece chunk : List Char} (h : IsChunkOf piece chunk) :
    chunk.filter (!Unicode.isSpace ·) = piece.filter (!Unicode.isSpace ·) := by
  rcases h with rfl | rfl
  · rfl
  · exact Text.filter_trim

private theorem IsChunkOf.length_le {piece chunk : List Char} (h : IsChunkOf piece chunk) :
    chunk.length ≤ piece.length := by
  rcases h with rfl | rfl
  · exact Nat.le_refl _
  · exact Text.trim_sublist.length_le

private theorem isChunkOf_chunk (piece : Piece) : IsChunkOf piece.source piece.chunk := by
  cases piece with
  | cut text => exact .inl rfl
  | packed text => exact .inr rfl

/-- What is no white space is kept in its order when pieces become chunks. -/
theorem filter_chunks {pieces kept : List (List Char)} (h : List.Forall₂ IsChunkOf pieces kept) :
    (kept.filter (!isBlank ·)).flatten.filter (!Unicode.isSpace ·) =
      pieces.flatten.filter (!Unicode.isSpace ·) := by
  induction h with
  | nil => rfl
  | @cons piece chunk pieces kept hchunk _ ih =>
    rw [List.flatten_cons, List.filter_append, ← ih, ← hchunk.filter_eq]
    cases hblank : isBlank chunk with
    | true => rw [List.filter_cons_of_neg (by simp [hblank]), filter_of_isBlank hblank, List.nil_append]
    | false =>
      rw [List.filter_cons_of_pos (by simp [hblank]), List.flatten_cons, List.filter_append]

/-- The pieces of a text give its chunks. -/
theorem forall₂_chunk (pieces : List Piece) :
    List.Forall₂ IsChunkOf (pieces.map Piece.source) (pieces.map Piece.chunk) := by
  rw [List.forall₂_map_left_iff, List.forall₂_map_right_iff, List.forall₂_same]
  exact fun piece _ => isChunkOf_chunk piece

/-- The cutting of a line comes to an end. A text that is not longer than the limit is its only chunk.
A longer one is cut into pieces at the right places, and its chunks are the pieces as they are or
trimmed, without the blank ones. So no chunk is longer than the limit, and the chunks have all of the
text but white space. -/
theorem chunks_of_cutting {limit : Nat} (hlimit : 1 ≤ limit) (text : String) :
    (∀ line, CutsTo limit line ((cutLine limit line).1.map Piece.source) (cutLine limit line).2) ∧
    (text.toList.length ≤ limit → chunks limit text = [text]) ∧
    (limit < text.toList.length → ∃ pieces kept, IsCutting limit text.toList pieces ∧
      List.Forall₂ IsChunkOf pieces kept ∧
      chunks limit text = (kept.filter (!isBlank ·)).map String.ofList) ∧
    (∀ chunk ∈ chunks limit text, chunk.toList.length ≤ limit) ∧
    ((chunks limit text).flatMap String.toList).filter (!Unicode.isSpace ·) =
      text.toList.filter (!Unicode.isSpace ·) := by
  have hcutting := isCutting_pieces hlimit text.toList
  have hkept := forall₂_chunk (pieces limit text.toList)
  refine ⟨cutsTo_cutLine hlimit, fun hshort => if_pos hshort, fun hlong => ?_, ?_⟩
  · exact ⟨_, _, hcutting, hkept, if_neg (Nat.not_le.mpr hlong)⟩
  by_cases hshort : text.toList.length ≤ limit
  · rw [chunks, if_pos hshort]
    exact ⟨by simpa using hshort, by simp⟩
  · rw [chunks, if_neg hshort]
    constructor
    · intro chunk hchunk
      obtain ⟨cs, hcs, rfl⟩ := List.mem_map.mp hchunk
      obtain ⟨piece, hpiece, rfl⟩ := List.mem_map.mp (List.mem_of_mem_filter hcs)
      rw [String.toList_ofList]
      exact (isChunkOf_chunk piece).length_le.trans (hcutting.short _ (List.mem_map_of_mem hpiece))
    · rw [List.flatMap_map]
      simp only [String.toList_ofList]
      rw [List.flatMap_id', filter_chunks hkept, hcutting.whole]

/-- A line that is cut, of which what is left is packed with the next line, a line without room, and a
blank piece. -/
theorem chunks_of_cutting_long_line :
    let text := "abcdefghi\n \nxy\n    "
    1 ≤ 4 ∧ 4 < text.toList.length ∧ chunks 4 text = ["abcd", "efgh", "i", "xy"] ∧
      ∃ pieces kept, IsCutting 4 text.toList pieces ∧ List.Forall₂ IsChunkOf pieces kept ∧
        chunks 4 text = (kept.filter (!isBlank ·)).map String.ofList := by
  intro text
  have hlimit : 1 ≤ 4 := by decide
  have hlong : 4 < text.toList.length := by decide
  exact ⟨hlimit, hlong, by decide +kernel, (chunks_of_cutting hlimit text).2.2.1 hlong⟩

end Text

end CodeTwins.Embedding
