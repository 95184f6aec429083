import CodeTwins.Service.Schema

/-!
# Accepted bodies

A body is accepted if each of its parts is. The elements of an accepted body have lines that may stand
in requests and replies: they are at least one and not too long.
-/
namespace CodeTwins.Service

variable {β γ : Type}

namespace Checked

private theorem map_ok {f : β → γ} {x : Checked β} {c : γ} (h : f <$> x = .ok c) :
    ∃ b, x = .ok b ∧ c = f b := by
  cases x with
  | bad ps => cases h
  | ok b =>
    cases h
    exact ⟨b, rfl, rfl⟩

private theorem seq_ok {f : Checked (β → γ)} {x : Checked β} {c : γ} (h : f <*> x = .ok c) :
    ∃ g b, f = .ok g ∧ x = .ok b ∧ c = g b := by
  cases f with
  | bad ps => cases x <;> cases h
  | ok g =>
    cases x with
    | bad qs => cases h
    | ok b =>
      cases h
      exact ⟨g, b, rfl, rfl, rfl⟩

private theorem within_ok {part : String} {x : Checked β} {b : β} (h : within part x = .ok b) :
    x = .ok b := by
  cases x with
  | bad ps => cases h
  | ok b' => exact h

private theorem mem_of_all_ok {xs : List (Checked β)} {bs : List β} (h : all xs = .ok bs) :
    ∀ b ∈ bs, .ok b ∈ xs := by
  induction xs generalizing bs with
  | nil =>
    cases h
    simp
  | cons x xs ih =>
    obtain ⟨g, rest, hx, hrest, rfl⟩ := seq_ok h
    obtain ⟨b, rfl, rfl⟩ := map_ok hx
    exact List.forall_mem_cons.mpr ⟨.head _, fun b' hb' => .tail _ (ih hrest b' hb')⟩

end Checked

open Checked

private theorem requiredField_ok {fields : List (String × Json)} {name : String}
    {check : Json → Checked β} {b : β} (h : requiredField fields name check = .ok b) :
    ∃ j, check j = .ok b := by
  have hfield := within_ok h
  split at hfield
  · exact ⟨_, hfield⟩
  · cases hfield

/-- A line that may stand in requests and replies. -/
structure IsLine (n : Int) : Prop where
  one_le : 1 ≤ n
  short : Numeral.IsShort n

private theorem isLine_iff {n : Int} : IsLine n ↔ 1 ≤ n ∧ Numeral.IsShort n :=
  ⟨fun h => ⟨h.one_le, h.short⟩, fun h => ⟨h.1, h.2⟩⟩

instance (n : Int) : Decidable (IsLine n) :=
  decidable_of_iff' _ isLine_iff

private theorem lineNumber_ok {j : Json} {n : Int} (h : lineNumber j = .ok n) : IsLine n := by
  unfold lineNumber at h
  split at h
  case h_1 m _ =>
    by_cases hone : m < 1
    · rw [if_pos hone] at h
      cases h
    · by_cases hshort : Numeral.IsShort m
      · rw [if_neg hone, if_pos hshort] at h
        cases h
        exact ⟨by omega, hshort⟩
      · rw [if_neg hone, if_neg hshort] at h
        cases h
  case h_2 => cases h

private theorem metadata_ok {j : Json} {m : Metadata} (h : metadata j = .ok m) :
    IsLine m.lineNumber := by
  unfold metadata at h
  split at h
  · obtain ⟨_, base, hfile, -, rfl⟩ := seq_ok h
    obtain ⟨_, file, hcommit, -, rfl⟩ := seq_ok hfile
    obtain ⟨_, commit, hname, -, rfl⟩ := seq_ok hcommit
    obtain ⟨_, name, hline, -, rfl⟩ := seq_ok hname
    obtain ⟨_, line, hpath, hchecked, rfl⟩ := seq_ok hline
    obtain ⟨path, -, rfl⟩ := map_ok hpath
    obtain ⟨_, hnumber⟩ := requiredField_ok hchecked
    exact lineNumber_ok hnumber
  · cases h

theorem element_ok {j : Json} {e : Element} (h : element j = .ok e) :
    IsLine e.metadata.lineNumber := by
  unfold element at h
  split at h
  · obtain ⟨_, text, hpart, -, rfl⟩ := seq_ok h
    obtain ⟨m, hchecked, rfl⟩ := map_ok hpart
    obtain ⟨_, hm⟩ := requiredField_ok hchecked
    exact metadata_ok hm
  · cases h

theorem elements_ok {j : Json} {es : List Element} (h : elements j = .ok es) :
    ∀ e ∈ es, IsLine e.metadata.lineNumber := by
  unfold elements at h
  split at h
  · intro e he
    obtain ⟨⟨item, i⟩, -, hitem⟩ := List.mem_map.mp (mem_of_all_ok h e he)
    exact element_ok (within_ok hitem)
  · cases h

end CodeTwins.Service
