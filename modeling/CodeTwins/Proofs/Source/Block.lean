import CodeTwins.Source.Block

/-!
# Where blocks stand

A block starts at or after the offset from which it is looked for, and it ends after its start and
within the text.
-/
namespace CodeTwins.Source

private theorem closeLength_pos {depth : Int} {cs : List Char} {n : Nat}
    (h : closeLength depth cs = some n) : 0 < n := by
  cases cs with
  | nil => cases h
  | cons c cs =>
    unfold closeLength at h
    split at h
    · cases h
      exact Nat.one_pos
    · obtain ⟨n', -, rfl⟩ := Option.map_eq_some_iff.mp h
      exact Nat.succ_pos n'

private theorem closeLength_le {depth : Int} {cs : List Char} {n : Nat}
    (h : closeLength depth cs = some n) : n ≤ cs.length := by
  induction cs generalizing depth n with
  | nil => cases h
  | cons c cs ih =>
    unfold closeLength at h
    split at h
    · cases h
      exact Nat.succ_le_succ (Nat.zero_le _)
    · obtain ⟨n', hn', rfl⟩ := Option.map_eq_some_iff.mp h
      exact Nat.succ_le_succ (ih hn')

theorem le_bodyStart {text : List Char} {offset opening : Nat}
    (h : bodyStart text offset = some opening) : offset ≤ opening := by
  obtain ⟨n, -, rfl⟩ := Option.map_eq_some_iff.mp h
  exact Nat.le_add_right offset n

theorem lt_bodyEnd {text : List Char} {opening closing : Nat}
    (h : bodyEnd text opening = some closing) : opening < closing := by
  obtain ⟨n, hn, rfl⟩ := Option.map_eq_some_iff.mp h
  have hpos := closeLength_pos hn
  omega

theorem bodyEnd_le {text : List Char} {opening closing : Nat}
    (h : bodyEnd text opening = some closing) : closing ≤ text.length := by
  obtain ⟨n, hn, rfl⟩ := Option.map_eq_some_iff.mp h
  have hpos := closeLength_pos hn
  have hle := closeLength_le hn
  rw [List.length_drop] at hle
  omega

end CodeTwins.Source
