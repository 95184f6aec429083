import CodeTwins.Json.Shape
import CodeTwins.Proofs.Decimal.Bits
import CodeTwins.Proofs.Traversal

/-!
# Numbers beyond all bounds

A value that is taken as an integer is beyond all bounds if it is an infinite double, and one that is
taken as a double if it is an integer beyond all finite doubles. Whatever else does not fit has
another reason.
-/
namespace CodeTwins

theorem Decimal.truncate?_eq_none_iff {x : Float} :
    truncate? x = none ↔ x = notANumber ∨ ∃ negative, x = infinity negative := by
  constructor
  · intro h
    unfold truncate? at h
    cases hx : magnitude x with
    | finite units exponent =>
      rw [hx] at h
      cases h
    | infinite => exact .inr ⟨_, eq_infinity_of_magnitude hx⟩
    | notANumber => exact .inl (eq_notANumber_of_magnitude hx)
  · rintro (rfl | ⟨_ | _, rfl⟩) <;> decide +kernel

/-- Nothing is read, since a number is beyond all bounds. -/
def Overflows {β : Type} (x : Except Misfit β) : Prop :=
  ∃ m, x = .error m ∧ m.isUnbounded = true

section Overflows

variable {β γ : Type}

@[simp] theorem not_overflows_ok (b : β) : ¬ Overflows (.ok b) :=
  nofun

theorem overflows_bind {x : Except Misfit β} {next : β → Except Misfit γ} :
    Overflows (x >>= next) ↔ Overflows x ∨ ∃ b, x = .ok b ∧ Overflows (next b) := by
  cases x with
  | error m => simp [Overflows, error_bind]
  | ok b => simp [ok_bind]

/-- What comes after something that does not overflow is all that does. -/
theorem overflows_bind_of_not {x : Except Misfit β} (hx : ¬ Overflows x)
    {next : β → Except Misfit γ} :
    Overflows (x >>= next) ↔ ∃ b, x = .ok b ∧ Overflows (next b) := by
  rw [overflows_bind, or_iff_right hx]

theorem overflows_mapM_iff {f : γ → Except Misfit β} {xs : List γ} :
    Overflows (xs.mapM f) ↔ ∃ before x after, xs = before ++ x :: after ∧
      (∀ x ∈ before, ∃ b, f x = .ok b) ∧ Overflows (f x) := by
  simp only [Overflows, mapM_eq_error_iff]
  constructor
  · rintro ⟨m, ⟨before, x, after, hxs, hbefore, hx⟩, hm⟩
    exact ⟨before, x, after, hxs, hbefore, m, hx, hm⟩
  · rintro ⟨before, x, after, hxs, hbefore, m, hx, hm⟩
    exact ⟨m, ⟨before, x, after, hxs, hbefore, hx⟩, hm⟩

end Overflows

namespace Json

variable {j : Json}

@[simp] theorem not_overflows_fields (j : Json) : ¬ Overflows j.fields := by
  rintro ⟨m, hm, hunbounded⟩
  cases j <;> cases hm <;> cases hunbounded

@[simp] theorem not_overflows_required (j : Json) (name : String) :
    ¬ Overflows (j.required name) := by
  rintro ⟨m, hm, hunbounded⟩
  unfold required at hm
  split at hm
  · split at hm <;> cases hm
    cases hunbounded
  · cases hm
    cases hunbounded

@[simp] theorem not_overflows_members (j : Json) : ¬ Overflows j.members := by
  rintro ⟨m, hm, hunbounded⟩
  cases j <;> cases hm <;> cases hunbounded

theorem fields_eq_ok_iff {fields : List (String × Json)} :
    j.fields = .ok fields ↔ j = .obj fields := by
  cases j <;> simp [Json.fields]

theorem required_eq_ok_iff {name : String} {v : Json} :
    j.required name = .ok v ↔ ∃ fields, j = .obj fields ∧ field? name fields = some v := by
  cases j with
  | obj fields => cases hv : field? name fields <;> simp [required, hv]
  | _ => simp [required]

theorem toOption_required (j : Json) (name : String) :
    (j.required name).toOption = j.get? name := by
  cases j with
  | obj fields => cases hv : field? name fields <;> simp [required, get?, hv, Except.toOption]
  | _ => rfl

theorem toInt_infinity (negative : Bool) :
    (float (Decimal.infinity negative)).toInt = .error .infiniteInteger := by
  cases negative <;> decide +kernel

theorem toInt_notANumber : (float Decimal.notANumber).toInt = .error .nanInteger := by
  decide +kernel

theorem overflows_toInt_iff :
    Overflows j.toInt ↔ ∃ negative, j = .float (Decimal.infinity negative) := by
  constructor
  · rintro ⟨m, hm, hunbounded⟩
    cases j with
    | float x =>
      cases hx : Decimal.truncate? x with
      | some n => simp [toInt, hx] at hm
      | none =>
        rcases Decimal.truncate?_eq_none_iff.mp hx with rfl | ⟨negative, rfl⟩
        · cases toInt_notANumber.symm.trans hm
          cases hunbounded
        · exact ⟨negative, rfl⟩
    | str s =>
      simp only [toInt] at hm
      split at hm
      · cases hm
      · split at hm <;> cases hm <;> cases hunbounded
    | bool | int => cases hm
    | null | arr | obj =>
      cases hm
      cases hunbounded
  · rintro ⟨negative, rfl⟩
    exact ⟨_, toInt_infinity negative, rfl⟩

theorem overflows_toFloat_iff :
    Overflows j.toFloat ↔ ∃ n, j = .int n ∧ (Decimal.ofInt n).isInf = true := by
  constructor
  · rintro ⟨m, hm, hunbounded⟩
    cases j with
    | int n =>
      refine ⟨n, rfl, ?_⟩
      by_contra hinf
      simp [toFloat, intToFloat, hinf] at hm
    | str s =>
      simp only [toFloat] at hm
      split at hm <;> cases hm
      cases hunbounded
    | bool | float => cases hm
    | null | arr | obj =>
      cases hm
      cases hunbounded
  · rintro ⟨n, rfl, hinf⟩
    exact ⟨.hugeNumber, by simp [toFloat, intToFloat, hinf], rfl⟩

end Json

end CodeTwins
