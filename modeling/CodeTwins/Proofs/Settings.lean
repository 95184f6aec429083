import CodeTwins.Proofs.Embedding.Cuts
import CodeTwins.Proofs.Numeral
import CodeTwins.Proofs.Traversal
import CodeTwins.Settings

/-!
# Settings that are accepted

An environment is refused if a text of it that should be a number is none, or if a number is out of its
range, and what is told of it then is such a fault. The settings of an environment that is accepted are
in their ranges, except that a time limit may be no number.
-/
namespace CodeTwins.Settings

variable {env : Environment} {s : Settings}

section Reading

variable {β : Type} {name : String} {default value : β} {read : String → Option β} {e : Invalid}

/-- What a name stands for: the default if nothing is given for it, and else what is given, read. -/
inductive Stands (env : Environment) (name : String) (default : β) (read : String → Option β) :
    β → Prop where
  | absent (h : env.given? name = none) : Stands env name default read default
  | given {text : String} {value : β} (h : env.given? name = some text)
      (hread : read text = some value) : Stands env name default read value

/-- A text that is given for a name is not a number of the kind that is wanted. -/
def Unreadable (env : Environment) (name : String) (read : String → Option β) (text : String) : Prop :=
  env.given? name = some text ∧ read text = none

private theorem numberOf_eq_ok_iff :
    numberOf env name default read = .ok value ↔ Stands env name default read value := by
  constructor
  · intro h
    rw [numberOf] at h
    split at h
    case h_1 habsent =>
      cases h
      exact .absent habsent
    case h_2 text hgiven =>
      split at h
      case h_1 hread =>
        cases h
        exact .given hgiven hread
      case h_2 => cases h
  · rintro (habsent | ⟨hgiven, hread⟩)
    · rw [numberOf, habsent]
    · simp only [numberOf, hgiven, hread]

private theorem numberOf_eq_error_iff : numberOf env name default read = .error e ↔
    ∃ text, Unreadable env name read text ∧ .notANumber name text = e := by
  constructor
  · intro h
    rw [numberOf] at h
    split at h
    case h_1 => cases h
    case h_2 text hgiven =>
      split at h
      case h_1 => cases h
      case h_2 hread => exact ⟨text, ⟨hgiven, hread⟩, Except.error.inj h⟩
  · rintro ⟨text, ⟨hgiven, hread⟩, rfl⟩
    simp only [numberOf, hgiven, hread]

private theorem Stands.unique {value' : β} (h : Stands env name default read value)
    (h' : Stands env name default read value') : value = value' :=
  Except.ok.inj ((numberOf_eq_ok_iff.mpr h).symm.trans (numberOf_eq_ok_iff.mpr h'))

private theorem Stands.not_unreadable {text : String} (h : Stands env name default read value) :
    ¬ Unreadable env name read text := by
  intro hnot
  have herror : numberOf env name default read = .error (.notANumber name text) :=
    numberOf_eq_error_iff.mpr ⟨text, hnot, rfl⟩
  cases (numberOf_eq_ok_iff.mpr h).symm.trans herror

end Reading

section Faults

/-- A fault of an environment: a text that should be a number and is none, or a number out of range. -/
inductive Faulty (env : Environment) : Invalid → Prop where
  | chunkSize {text : String} (h : Unreadable env "EMBEDDING_CHUNK_SIZE" Numeral.int? text) :
      Faulty env (.notANumber "EMBEDDING_CHUNK_SIZE" text)
  | timeout {text : String} (h : Unreadable env "EMBEDDING_TIMEOUT" Numeral.float? text) :
      Faulty env (.notANumber "EMBEDDING_TIMEOUT" text)
  | concurrency {text : String} (h : Unreadable env "EMBEDDING_CONCURRENCY" Numeral.int? text) :
      Faulty env (.notANumber "EMBEDDING_CONCURRENCY" text)
  | port {text : String} (h : Unreadable env "PORT" Numeral.int? text) :
      Faulty env (.notANumber "PORT" text)
  | timeoutNotPositive {timeout : Float}
      (h : Stands env "EMBEDDING_TIMEOUT" 30 Numeral.float? timeout) (hrange : timeout ≤ 0) :
      Faulty env .timeoutNotPositive
  | noWorkers {concurrency : Int} (h : Stands env "EMBEDDING_CONCURRENCY" 5 Numeral.int? concurrency)
      (hrange : concurrency < 1) : Faulty env .noWorkers
  | portOutOfRange {port : Int} (h : Stands env "PORT" 3000 Numeral.int? port)
      (hrange : ¬ (0 < port ∧ port < 65536)) (hshort : Numeral.IsShort port) :
      Faulty env (.portOutOfRange port)

/-- The numbers of settings are those of an environment, and pass the checks of their ranges. -/
structure Accepted (env : Environment) (s : Settings) : Prop where
  chunkSize : Stands env "EMBEDDING_CHUNK_SIZE" 1000 Numeral.int? s.chunkSize
  timeout : Stands env "EMBEDDING_TIMEOUT" 30 Numeral.float? s.timeout
  concurrency : Stands env "EMBEDDING_CONCURRENCY" 5 Numeral.int? s.concurrency
  port : Stands env "PORT" 3000 Numeral.int? s.port
  timeout_range : ¬ s.timeout ≤ 0
  concurrency_range : 1 ≤ s.concurrency
  port_range : 0 < s.port ∧ s.port < 65536

private theorem isShort_port {port : Int} (h : Stands env "PORT" 3000 Numeral.int? port) :
    Numeral.IsShort port := by
  cases h with
  | absent => decide
  | given _ hread => exact Numeral.isShort_of_int? hread

private theorem Accepted.not_faulty (h : Accepted env s) {e : Invalid} : ¬ Faulty env e := by
  rintro (hchunk | htext | hworkers | hport | ⟨hvalue, hrange⟩ | ⟨hvalue, hrange⟩ | ⟨hvalue, hrange, -⟩)
  · exact h.chunkSize.not_unreadable hchunk
  · exact h.timeout.not_unreadable htext
  · exact h.concurrency.not_unreadable hworkers
  · exact h.port.not_unreadable hport
  · exact h.timeout_range (h.timeout.unique hvalue ▸ hrange)
  · have hsame := h.concurrency.unique hvalue
    have hleast := h.concurrency_range
    omega
  · exact hrange (h.port.unique hvalue ▸ h.port_range)

/-- The checks of an environment, in their order. -/
theorem accepted_or_faulty (env : Environment) :
    (∃ s, ofEnvironment env = .ok s ∧ Accepted env s) ∨
      ∃ e, ofEnvironment env = .error e ∧ Faulty env e := by
  rw [ofEnvironment]
  cases hchunk : numberOf env "EMBEDDING_CHUNK_SIZE" 1000 Numeral.int? with
  | error e =>
    obtain ⟨text, htext, rfl⟩ := numberOf_eq_error_iff.mp hchunk
    exact .inr ⟨_, rfl, .chunkSize htext⟩
  | ok chunkSize =>
  cases htimeout : numberOf env "EMBEDDING_TIMEOUT" 30 Numeral.float? with
  | error e =>
    obtain ⟨text, htext, rfl⟩ := numberOf_eq_error_iff.mp htimeout
    exact .inr ⟨_, rfl, .timeout htext⟩
  | ok timeout =>
  cases hworkers : numberOf env "EMBEDDING_CONCURRENCY" 5 Numeral.int? with
  | error e =>
    obtain ⟨text, htext, rfl⟩ := numberOf_eq_error_iff.mp hworkers
    exact .inr ⟨_, rfl, .concurrency htext⟩
  | ok concurrency =>
  cases hport : numberOf env "PORT" 3000 Numeral.int? with
  | error e =>
    obtain ⟨text, htext, rfl⟩ := numberOf_eq_error_iff.mp hport
    exact .inr ⟨_, rfl, .port htext⟩
  | ok port =>
  rw [numberOf_eq_ok_iff] at hchunk htimeout hworkers hport
  simp only [ok_bind, validate]
  split
  case isTrue hrange => exact .inr ⟨_, rfl, .timeoutNotPositive htimeout hrange⟩
  case isFalse hpositive =>
  split
  case isTrue hrange => exact .inr ⟨_, rfl, .noWorkers hworkers hrange⟩
  case isFalse hleast =>
  split
  case isTrue hrange => exact .inr ⟨_, rfl, .portOutOfRange hport hrange (isShort_port hport)⟩
  case isFalse hrange =>
    exact .inl ⟨_, rfl, hchunk, htimeout, hworkers, hport, hpositive, Int.not_lt.mp hleast,
      not_not.mp hrange⟩

end Faults

section Ranges

/-- Settings that serve: there are workers and a port, and every line is cut to the end. -/
structure Serves (s : Settings) : Prop where
  concurrency : 1 ≤ s.concurrency
  port_pos : 0 < s.port
  port_lt : s.port < 65536
  chunkLimit : 100 ≤ s.chunkLimit
  workers : 1 ≤ s.workers
  cuts : ∀ line, ∃ pieces rest, Embedding.CutsTo s.chunkLimit line pieces rest

private theorem le_chunkLimit (s : Settings) : 100 ≤ s.chunkLimit := by
  unfold chunkLimit Embedding.chunkLimit
  omega

private theorem Accepted.serves (h : Accepted env s) : Serves s where
  concurrency := h.concurrency_range
  port_pos := h.port_range.1
  port_lt := h.port_range.2
  chunkLimit := le_chunkLimit s
  workers := by
    have := h.concurrency_range
    unfold workers
    omega
  cuts line := ⟨_, _, Embedding.cutsTo_cutLine (Nat.lt_of_lt_of_le (by decide) (le_chunkLimit s)) line⟩

private theorem isNaN_timeout_iff {timeout : Float}
    (h : Stands env "EMBEDDING_TIMEOUT" 30 Numeral.float? timeout) : timeout.isNaN = true ↔
      ∃ text, env.given? "EMBEDDING_TIMEOUT" = some text ∧ Numeral.SpellsNoNumber text := by
  cases h with
  | absent habsent =>
    have hnumber : (30 : Float).isNaN = false := by decide +kernel
    rw [hnumber]
    simp [habsent]
  | given hgiven hread =>
    rw [Numeral.isNaN_iff_of_float? hread]
    simp [hgiven]

/-- A time limit that is accepted is positive, unless what is given for it spells out no number. -/
theorem Accepted.timeout_pos_iff (h : Accepted env s) : 0 < s.timeout ↔
    ∀ text, env.given? "EMBEDDING_TIMEOUT" = some text → ¬ Numeral.SpellsNoNumber text := by
  rw [Decimal.pos_iff_not_le, ← Bool.not_eq_true, isNaN_timeout_iff h.timeout]
  simp [h.timeout_range]

/-- An environment is refused for a fault that it has, and only if it has one. Settings that are
accepted serve. Their time limit is positive unless the text for it spells out no number. -/
theorem ofEnvironment_in_range (env : Environment) :
    (∀ e, ofEnvironment env = .error e → Faulty env e) ∧
    (∀ e, Faulty env e → ∃ told, ofEnvironment env = .error told) ∧
    ∀ s, ofEnvironment env = .ok s → Serves s ∧ (0 < s.timeout ↔
      ∀ text, env.given? "EMBEDDING_TIMEOUT" = some text → ¬ Numeral.SpellsNoNumber text) := by
  rcases accepted_or_faulty env with ⟨s, hs, haccepted⟩ | ⟨e, he, hfaulty⟩
  · refine ⟨fun e he => ?_, fun e hfault => absurd hfault haccepted.not_faulty, fun s' hs' => ?_⟩
    · cases hs.symm.trans he
    · cases hs.symm.trans hs'
      exact ⟨haccepted.serves, haccepted.timeout_pos_iff⟩
  · refine ⟨fun e' he' => ?_, fun _ _ => ⟨e, he⟩, fun s hs => ?_⟩
    · cases he.symm.trans he'
      exact hfaulty
    · cases he.symm.trans hs

/-- A time limit that is no number is accepted. -/
theorem accepts_no_number :
    ∃ s, ofEnvironment [("EMBEDDING_TIMEOUT", "nan")] = .ok s ∧ ¬ 0 < s.timeout := by
  refine ⟨_, rfl, ?_⟩
  decide

end Ranges

end CodeTwins.Settings
