import CodeTwins.Element
import CodeTwins.Proofs.Numeral
import CodeTwins.Proofs.Traversal

/-!
# Elements that can be written

An integer of too many digits is not written, and so neither is an element whose line is such an
integer. A list of elements is written if all of them can be.
-/
namespace CodeTwins

namespace Json

variable {n : Int}

theorem intText_of_isShort (h : Numeral.IsShort n) : intText n = .ok (toString n) :=
  if_pos h

theorem intText_of_not_isShort (h : ¬ Numeral.IsShort n) :
    intText n = .error (.tooManyDigits none) :=
  if_neg h

end Json

namespace Element

/-- The line of an element has no more digits than can be written. -/
def Writable (e : Element) : Prop :=
  Numeral.IsShort e.metadata.lineNumber

instance (e : Element) : Decidable e.Writable :=
  inferInstanceAs (Decidable (Numeral.IsShort _))

variable {e : Element} {es : List Element}

theorem encode_of_writable (h : e.Writable) : e.encode = .ok e.loose.toJson := by
  rw [encode, Json.intText_of_isShort h]
  rfl

theorem encode_of_not_writable (h : ¬ e.Writable) : e.encode = .error (.tooManyDigits none) := by
  rw [encode, Json.intText_of_not_isShort h]
  rfl

theorem encode_eq_error_iff {m : Misfit} :
    e.encode = .error m ↔ ¬ e.Writable ∧ m = .tooManyDigits none := by
  by_cases h : e.Writable
  · simp [encode_of_writable h, h]
  · simp [encode_of_not_writable h, h, eq_comm]

theorem mapM_encode (h : ∀ e ∈ es, e.Writable) :
    es.mapM encode = .ok (es.map fun e => e.loose.toJson) := by
  rw [mapM_eq_ok_iff, List.forall₂_map_right_iff, List.forall₂_same]
  exact fun e he => encode_of_writable (h e he)

theorem mapM_encode_of_mem (he : e ∈ es) (hlong : ¬ e.Writable) :
    es.mapM encode = .error (.tooManyDigits none) := by
  induction es with
  | nil => cases he
  | cons first es ih =>
    by_cases hfirst : first.Writable
    · have hrest : e ∈ es := by
        refine (List.mem_cons.mp he).resolve_left ?_
        rintro rfl
        exact hlong hfirst
      rw [mapM_cons_of_ok (encode_of_writable hfirst), ih hrest]
      rfl
    · exact mapM_cons_of_error (encode_of_not_writable hfirst) es

theorem mapM_encode_eq_ok_iff {js : List Json} :
    es.mapM encode = .ok js ↔ (∀ e ∈ es, e.Writable) ∧ (es.map fun e => e.loose.toJson) = js := by
  by_cases h : ∀ e ∈ es, e.Writable
  · rw [mapM_encode h, Except.ok.injEq, and_iff_right h]
  · obtain ⟨e, he, hlong⟩ : ∃ e ∈ es, ¬ e.Writable := by simpa using h
    rw [mapM_encode_of_mem he hlong]
    exact iff_of_false nofun fun hall => h hall.1

theorem mapM_encode_eq_error_iff {m : Misfit} :
    es.mapM encode = .error m ↔ (∃ e ∈ es, ¬ e.Writable) ∧ m = .tooManyDigits none := by
  by_cases h : ∀ e ∈ es, e.Writable
  · rw [mapM_encode h]
    exact iff_of_false nofun fun ⟨⟨e, he, hlong⟩, _⟩ => hlong (h e he)
  · have hex : ∃ e ∈ es, ¬ e.Writable := by simpa using h
    obtain ⟨e, he, hlong⟩ := hex
    rw [mapM_encode_of_mem he hlong, Except.error.injEq, and_iff_right ⟨e, he, hlong⟩, eq_comm]

end Element

end CodeTwins
