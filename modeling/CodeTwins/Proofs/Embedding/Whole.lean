import CodeTwins.Proofs.Embedding.Reply

/-!
# Embedding by all chunks

The vector of a text is made of the vectors of all its chunks. The chunks are asked for in their order,
one request each, up to the first that fails, and then the text fails as this chunk does. If none fails
there is a vector exactly if those of the chunks are of one length: that of the only chunk, and otherwise
the mean of all.
-/
namespace CodeTwins.Embedding

section Requests

variable {α : Type} {provider : Provider α} {asked texts : List String} {vs : List (Vec α)} {e : Error}

/-- Each text is answered with a vector, one request after the other. -/
inductive Answered (provider : Provider α) : List String → List String → List (Vec α) → Prop where
  | nil {asked : List String} : Answered provider asked [] []
  | cons {asked texts : List String} {text : String} {v : Vec α} {vs : List (Vec α)}
      (hfirst : provider asked text = .ok v) (hrest : Answered provider (text :: asked) texts vs) :
      Answered provider asked (text :: texts) (v :: vs)

/-- The texts before a place are answered, and the request for the one at it fails. -/
inductive FailsAt (provider : Provider α) (asked texts : List String) (k : Nat) (e : Error) : Prop where
  | request {text : String} {vs : List (Vec α)} (hbefore : Answered provider asked (texts.take k) vs)
      (htext : texts[k]? = some text)
      (hfails : provider ((texts.take k).reverse ++ asked) text = .error e)

private theorem ne_nil_of_answered (h : Answered provider asked texts vs) (hsome : texts ≠ []) :
    vs ≠ [] := by
  cases h with
  | nil => exact absurd rfl hsome
  | cons => exact List.cons_ne_nil _ _

private theorem askAll_of_answered (h : Answered provider asked texts vs) :
    askAll provider asked texts = (.ok vs, texts.reverse ++ asked) := by
  induction h with
  | nil => rfl
  | cons hfirst _ ih =>
    simp only [askAll, hfirst, ih, List.reverse_cons, List.append_assoc, List.singleton_append]
    rfl

/-- Up to the failure, the texts are asked for as if there were no others. -/
theorem askAll_of_failsAt {k : Nat} (h : FailsAt provider asked texts k e) :
    askAll provider asked texts = (.error e, (texts.take (k + 1)).reverse ++ asked) := by
  obtain ⟨hbefore, htext, hfails⟩ := h
  rename_i vs
  induction texts generalizing asked k vs with
  | nil => cases htext
  | cons first texts ih =>
    cases k with
    | zero =>
      obtain rfl := Option.some.inj htext
      simp only [List.take_zero, List.reverse_nil, List.nil_append] at hfails
      rw [askAll, hfails]
      rfl
    | succ k =>
      cases hbefore with
      | cons hfirst hrest =>
        have hmore := ih hrest htext (by simpa using hfails)
        simp only [askAll, hfirst, hmore, List.take_succ_cons, List.reverse_cons, List.append_assoc,
          List.singleton_append]
        rfl

private theorem answered_or_failsAt (provider : Provider α) (asked texts : List String) :
    (∃ vs, Answered provider asked texts vs) ∨ ∃ k e, FailsAt provider asked texts k e := by
  induction texts generalizing asked with
  | nil => exact .inl ⟨[], .nil⟩
  | cons text texts ih =>
    cases hanswer : provider asked text with
    | error e => exact .inr ⟨0, e, .request .nil rfl hanswer⟩
    | ok v =>
      rcases ih (text :: asked) with ⟨vs, hvs⟩ | ⟨k, e, hbefore, htext, hfails⟩
      · exact .inl ⟨v :: vs, .cons hanswer hvs⟩
      · exact .inr ⟨k + 1, e, .request (.cons hanswer hbefore) htext (by simpa using hfails)⟩

end Requests

section Combined

variable {α : Type} [Scalar α] {vs : List (Vec α)} {e : Error}

private theorem exists_combine_ok_iff :
    (∃ v, combine vs = .ok v) ↔ ∃ d, ∀ v ∈ vs, v.length = d := by
  constructor
  · rintro ⟨v, hv⟩
    unfold combine at hv
    split at hv
    case h_1 w => exact ⟨w.length, by simp⟩
    case h_2 =>
      rw [mapError_eq_ok_iff, Vec.mean?] at hv
      split at hv
      case isTrue hone => exact Vec.length_dimensions_le_one_iff.mp hone
      case isFalse => cases hv
  · rintro ⟨d, hd⟩
    exact combine_of_length hd

private theorem combine_eq_mean {v : Vec α} (hmany : ∀ w, vs ≠ [w]) (h : combine vs = .ok v) :
    v = Vec.mean vs := by
  unfold combine at h
  split at h
  case h_1 w => exact absurd rfl (hmany w)
  case h_2 =>
    rw [mapError_eq_ok_iff, Vec.mean?] at h
    split at h
    case isTrue => exact (Except.ok.inj h).symm
    case isFalse => cases h

/-- What vectors come to is their mean. -/
theorem combine_eq_ok_iff {vs : List (Vec ℝ)} {v : Vec ℝ} (hsome : vs ≠ []) :
    combine vs = .ok v ↔ Vec.IsMeanOf vs v := by
  have hmean : ∀ {v}, combine vs = .ok v → Vec.IsMeanOf vs v := by
    intro v hv
    obtain ⟨d, hd⟩ := exists_combine_ok_iff.mp ⟨v, hv⟩
    by_cases hsingle : ∃ w, vs = [w]
    · obtain ⟨w, rfl⟩ := hsingle
      obtain rfl := Except.ok.inj hv
      exact Vec.isMeanOf_single w
    · have hmany : ∀ w, vs ≠ [w] := not_exists.mp hsingle
      obtain rfl := combine_eq_mean hmany hv
      have hlength : (Vec.mean vs).length = d := Vec.length_mean hd hsome
      exact ⟨fun w hw => (hd w hw).trans hlength.symm, fun w hw => absurd hw (hmany w),
        fun i hi => Vec.getElem?_mean_exact hsome hd (hlength ▸ hi)⟩
  refine ⟨hmean, fun h => ?_⟩
  obtain ⟨w, hw⟩ := combine_of_length h.length_eq
  rw [hw, h.eq hsome (hmean hw)]

end Combined

section Text

variable {limit : Nat} {text : String} {asked : List String}

private theorem embed_of_answered {α : Type} [Scalar α] {provider : Provider α} {vs : List (Vec α)}
    (h : Answered provider asked (chunks limit text) vs) :
    Embedder.embed ⟨some provider, limit⟩ asked text =
      (combine vs, (chunks limit text).reverse ++ asked) := by
  simp only [Embedder.embed, askAll_of_answered h]
  rfl

private theorem embed_of_failsAt {α : Type} [Scalar α] {provider : Provider α} {k : Nat} {e : Error}
    (h : FailsAt provider asked (chunks limit text) k e) :
    Embedder.embed ⟨some provider, limit⟩ asked text =
      (.error e, ((chunks limit text).take (k + 1)).reverse ++ asked) := by
  simp only [Embedder.embed, askAll_of_failsAt h]
  rfl

/-- Whatever comes of the requests (for any provider and numbers of any kind, so for doubles from replies
as well): either all chunks are answered, or there is a first one for which the request fails. The chunks
up to that one are asked for and nothing else, and its error is that of the text. If all are answered,
there is a vector if and only if theirs are of one length, and otherwise an error of the provider tells
the lengths. With exact numbers, the vector is the mean of those of all chunks. -/
theorem embed_by_all_chunks (hsome : chunks limit text ≠ []) (asked : List String) :
    (∀ {α : Type} [Scalar α] (provider : Provider α),
      let told := Embedder.embed ⟨some provider, limit⟩ asked text
      ((∃ vs, Answered provider asked (chunks limit text) vs) ∨
        ∃ k e, FailsAt provider asked (chunks limit text) k e) ∧
      (∀ k e, FailsAt provider asked (chunks limit text) k e →
        told = (.error e, ((chunks limit text).take (k + 1)).reverse ++ asked)) ∧
      ∀ vs, Answered provider asked (chunks limit text) vs →
        told.2 = (chunks limit text).reverse ++ asked ∧
        ((∃ v, told.1 = .ok v) ↔ ∃ d, ∀ w ∈ vs, w.length = d) ∧
        ∀ e, told.1 = .error e →
          e = .mixedLengths (Vec.dimensions vs) ∧ e.IsReported ∧ ¬ e.IsTimeout) ∧
    ∀ (provider : Provider ℝ) (v : Vec ℝ),
      (Embedder.embed ⟨some provider, limit⟩ asked text).1 = .ok v ↔
        ∃ vs, Answered provider asked (chunks limit text) vs ∧ Vec.IsMeanOf vs v := by
  refine ⟨fun {α} _ provider => ?_, fun provider v => ?_⟩
  · refine ⟨answered_or_failsAt provider asked _, fun k e => embed_of_failsAt, fun vs hvs => ?_⟩
    rw [embed_of_answered hvs]
    refine ⟨rfl, exists_combine_ok_iff, fun e he => ?_⟩
    obtain rfl := combine_error he
    exact ⟨rfl, .inr rfl, nofun⟩
  · constructor
    · intro h
      rcases answered_or_failsAt provider asked (chunks limit text) with ⟨vs, hvs⟩ | ⟨k, e, hfails⟩
      · rw [embed_of_answered hvs] at h
        exact ⟨vs, hvs, (combine_eq_ok_iff (ne_nil_of_answered hvs hsome)).mp h⟩
      · rw [embed_of_failsAt hfails] at h
        cases h
    · rintro ⟨vs, hvs, hmean⟩
      rw [embed_of_answered hvs]
      exact (combine_eq_ok_iff (ne_nil_of_answered hvs hsome)).mpr hmean

/-- A provider that answers with the number of the request. -/
private def counting : Provider ℝ :=
  fun asked _ => .ok [asked.length, 2]

theorem embed_by_all_chunks_three :
    chunks 4 "abc\nde\nfgh" = ["abc", "de", "fgh"] ∧ chunks 4 "abc\nde\nfgh" ≠ [] ∧
      (Embedder.embed ⟨some counting, 4⟩ [] "abc\nde\nfgh").1 = .ok [1, 2] := by
  have hchunks : chunks 4 "abc\nde\nfgh" = ["abc", "de", "fgh"] := by decide +kernel
  have hsome : chunks 4 "abc\nde\nfgh" ≠ [] := by simp [hchunks]
  refine ⟨hchunks, hsome, ((embed_by_all_chunks hsome []).2 counting [1, 2]).mpr ?_⟩
  rw [hchunks]
  refine ⟨[[(0 : ℕ), 2], [(1 : ℕ), 2], [(2 : ℕ), 2]], .cons rfl (.cons rfl (.cons rfl .nil)), ?_⟩
  refine ⟨by simp, nofun, fun i hi => ?_⟩
  have hplace : i = 0 ∨ i = 1 := by
    simp only [List.length_cons, List.length_nil] at hi
    omega
  rcases hplace with rfl | rfl <;> norm_num [Vec.column, List.filterMap_cons]

end Text

end CodeTwins.Embedding
