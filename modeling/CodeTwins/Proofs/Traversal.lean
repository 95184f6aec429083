import Mathlib.Data.List.Forall2

/-!
# Going through a list with what may fail

A function that may fail is applied to the members of a list, one after another, up to the first
failure. There is a result if it fails for none of them, and a failure is that of the first for which
it does.
-/
namespace CodeTwins

variable {α β ε : Type} {f : α → Except ε β} {x : α} {y : β} {e : ε}

theorem ok_bind (y : β) {γ : Type} (next : β → Except ε γ) : (Except.ok y >>= next) = next y :=
  rfl

theorem error_bind (e : ε) {γ : Type} (next : β → Except ε γ) :
    (Except.error e >>= next) = .error e :=
  rfl

theorem map_eq_ok_iff {γ : Type} {g : β → γ} {result : Except ε β} {z : γ} :
    result.map g = .ok z ↔ ∃ y, result = .ok y ∧ g y = z := by
  cases result <;> simp [Except.map]

theorem map_eq_error_iff {γ : Type} {g : β → γ} {result : Except ε β} :
    result.map g = .error e ↔ result = .error e := by
  cases result <;> simp [Except.map]

theorem mapError_eq_ok_iff {ε' : Type} {g : ε → ε'} {result : Except ε β} :
    result.mapError g = .ok y ↔ result = .ok y := by
  cases result <;> simp [Except.mapError]

theorem mapError_eq_error_iff {ε' : Type} {g : ε → ε'} {result : Except ε β} {e' : ε'} :
    result.mapError g = .error e' ↔ ∃ e, result = .error e ∧ g e = e' := by
  cases result <;> simp [Except.mapError]

theorem toOption_eq_some_iff {result : Except ε β} : result.toOption = some y ↔ result = .ok y := by
  cases result <;> simp [Except.toOption]

theorem isOk_iff_exists {result : Except ε β} : result.isOk = true ↔ ∃ y, result = .ok y := by
  cases result <;> simp [Except.isOk, Except.toBool]

theorem mapM_cons_of_ok (hx : f x = .ok y) (xs : List α) :
    (x :: xs).mapM f = (xs.mapM f).map (y :: ·) := by
  rw [List.mapM_cons, hx]
  cases xs.mapM f <;> rfl

theorem mapM_cons_of_error (hx : f x = .error e) (xs : List α) :
    (x :: xs).mapM f = .error e := by
  rw [List.mapM_cons, hx]
  rfl

/-- The results belong to the members, one to each. -/
theorem mapM_eq_ok_iff {xs : List α} {ys : List β} :
    xs.mapM f = .ok ys ↔ List.Forall₂ (fun x y => f x = .ok y) xs ys := by
  induction xs generalizing ys with
  | nil =>
    rw [List.forall₂_nil_left_iff]
    constructor
    · intro h
      cases h
      rfl
    · rintro rfl
      rfl
  | cons x xs ih =>
    constructor
    · intro h
      cases hx : f x with
      | error e => cases (mapM_cons_of_error hx xs).symm.trans h
      | ok y =>
        rw [mapM_cons_of_ok hx] at h
        cases hxs : xs.mapM f with
        | error e =>
          rw [hxs] at h
          cases h
        | ok rest =>
          rw [hxs] at h
          cases h
          exact .cons hx (ih.mp hxs)
    · intro h
      cases h with
      | cons hx hrest =>
        rw [mapM_cons_of_ok hx, ih.mpr hrest]
        rfl

/-- The failure is that of the first member for which there is one. -/
theorem mapM_eq_error_iff {xs : List α} :
    xs.mapM f = .error e ↔ ∃ before x after, xs = before ++ x :: after ∧
      (∀ x ∈ before, ∃ y, f x = .ok y) ∧ f x = .error e := by
  induction xs with
  | nil => simp [pure, Except.pure]
  | cons x xs ih =>
    constructor
    · intro h
      cases hx : f x with
      | error e' =>
        cases (mapM_cons_of_error hx xs).symm.trans h
        exact ⟨[], x, xs, rfl, nofun, hx⟩
      | ok y =>
        rw [mapM_cons_of_ok hx] at h
        cases hxs : xs.mapM f with
        | ok ys =>
          rw [hxs] at h
          cases h
        | error e' =>
          rw [hxs] at h
          cases h
          obtain ⟨before, bad, after, rfl, hbefore, hbad⟩ := ih.mp hxs
          exact ⟨x :: before, bad, after, rfl, List.forall_mem_cons.mpr ⟨⟨y, hx⟩, hbefore⟩, hbad⟩
    · rintro ⟨before, bad, after, h, hbefore, hbad⟩
      cases before with
      | nil =>
        obtain ⟨rfl, rfl⟩ := List.cons.inj h
        exact mapM_cons_of_error hbad _
      | cons first before =>
        obtain ⟨rfl, rfl⟩ := List.cons.inj h
        obtain ⟨⟨y, hy⟩, hbefore⟩ := List.forall_mem_cons.mp hbefore
        rw [mapM_cons_of_ok hy, ih.mpr ⟨before, bad, after, rfl, hbefore, hbad⟩]
        rfl

/-- Every result comes of a member. -/
theorem exists_of_mem_mapM {xs : List α} {ys : List β} (h : xs.mapM f = .ok ys) (hy : y ∈ ys) :
    ∃ x ∈ xs, f x = .ok y := by
  have hall := mapM_eq_ok_iff.mp h
  clear h
  induction hall with
  | nil => cases hy
  | cons hx _ ih =>
    rcases List.mem_cons.mp hy with rfl | hy
    · exact ⟨_, .head _, hx⟩
    · obtain ⟨x, hmem, hfx⟩ := ih hy
      exact ⟨x, .tail _ hmem, hfx⟩

/-- There are results if there is one for each member. -/
theorem exists_mapM_ok_iff {xs : List α} :
    (∃ ys, xs.mapM f = .ok ys) ↔ ∀ x ∈ xs, ∃ y, f x = .ok y := by
  induction xs with
  | nil => exact ⟨fun _ => nofun, fun _ => ⟨[], rfl⟩⟩
  | cons x xs ih =>
    rw [List.forall_mem_cons, ← ih]
    cases hx : f x with
    | error e => simp [mapM_cons_of_error hx]
    | ok y =>
      rw [mapM_cons_of_ok hx]
      cases xs.mapM f <;> simp [Except.map]

theorem isOk_mapM_iff {xs : List α} :
    (xs.mapM f).isOk = true ↔ ∀ x ∈ xs, (f x).isOk = true := by
  simp only [isOk_iff_exists, exists_mapM_ok_iff]

theorem mapM_map_ok {δ : Type} {shown : δ → α} {value : δ → β} {l : List δ}
    (h : ∀ x ∈ l, f (shown x) = .ok (value x)) : (l.map shown).mapM f = .ok (l.map value) := by
  rw [mapM_eq_ok_iff, List.forall₂_map_left_iff, List.forall₂_map_right_iff, List.forall₂_same]
  exact h

theorem mapM_cons_eq_some_iff {g : α → Option β} {xs : List α} {ys : List β} :
    (x :: xs).mapM g = some ys ↔
      ∃ y, g x = some y ∧ ∃ rest, xs.mapM g = some rest ∧ y :: rest = ys := by
  simp [List.mapM_cons, Option.bind_eq_some_iff]

/-- What is found of each member is what the function gives of it. -/
theorem mapM_ok_of_mapM_some {g : α → Option β} (hfg : ∀ x y, g x = some y → f x = .ok y)
    {xs : List α} {ys : List β} (h : xs.mapM g = some ys) : xs.mapM f = .ok ys := by
  induction xs generalizing ys with
  | nil =>
    cases h
    rfl
  | cons x xs ih =>
    obtain ⟨y, hy, rest, hrest, rfl⟩ := mapM_cons_eq_some_iff.mp h
    rw [mapM_cons_of_ok (hfg x y hy), ih hrest]
    rfl

end CodeTwins
