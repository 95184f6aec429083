import CodeTwins.Command.Shell

/-!
# Runs of actions

An action is followed from the shell before it to the shell after it, whether it returns or ends early.
What all its steps keep, it keeps.
-/
namespace CodeTwins.Command

variable {σ α β : Type}

section Run

theorem run_bind (m : Act σ α) (f : α → Act σ β) (s : Shell σ) :
    (m >>= f).run s =
      match m.run s with
      | (.ok a, s') => (f a).run s'
      | (.error stop, s') => (.error stop, s') := by
  rw [ExceptT.run_bind]
  change StateT.bind m.run _ s = _
  rw [StateT.bind]
  rcases m.run s with ⟨_ | _, s'⟩ <;> rfl

theorem run_tryCatch (m : Act σ α) (f : Stop → Act σ α) (s : Shell σ) :
    (tryCatch m f).run s =
      match m.run s with
      | (.ok a, s') => (.ok a, s')
      | (.error stop, s') => (f stop).run s' := by
  simp only [tryCatch, tryCatchThe, MonadExceptOf.tryCatch, ExceptT.tryCatch, ExceptT.run_mk]
  change StateT.bind m.run _ s = _
  rw [StateT.bind]
  rcases m.run s with ⟨_ | _, s'⟩ <;> rfl

theorem run_bind_of_ok {m : Act σ α} {f : α → Act σ β} {s s' : Shell σ} {a : α}
    (h : m.run s = (.ok a, s')) : (m >>= f).run s = (f a).run s' := by
  rw [run_bind, h]

theorem run_bind_of_error {m : Act σ α} {f : α → Act σ β} {s s' : Shell σ} {stop : Stop}
    (h : m.run s = (.error stop, s')) : (m >>= f).run s = (.error stop, s') := by
  rw [run_bind, h]

theorem run_bind_congr {m : Act σ α} {f g : α → Act σ β} {s : Shell σ}
    (h : ∀ a s', m.run s = (.ok a, s') → (f a).run s' = (g a).run s') :
    (m >>= f).run s = (m >>= g).run s := by
  rcases hrun : m.run s with ⟨stop | a, s'⟩
  · rw [run_bind_of_error hrun, run_bind_of_error hrun]
  · rw [run_bind_of_ok hrun, run_bind_of_ok hrun, h a s' hrun]

/-- What returns has returned at each of its steps. -/
theorem ok_of_run_bind {m : Act σ α} {f : α → Act σ β} {s s'' : Shell σ} {b : β}
    (h : (m >>= f).run s = (.ok b, s'')) :
    ∃ a s', m.run s = (.ok a, s') ∧ (f a).run s' = (.ok b, s'') := by
  rw [run_bind] at h
  rcases hm : m.run s with ⟨stop | a, s'⟩ <;> rw [hm] at h
  · cases h
  · exact ⟨a, s', rfl, h⟩

theorem run_get (s : Shell σ) : (get : Act σ (Shell σ)).run s = (.ok s, s) :=
  rfl

theorem run_orStop {ε : Type} {stop : ε → Stop} {x : Except ε α} {s s' : Shell σ} {a : α}
    (h : (orStop stop x : Act σ α).run s = (.ok a, s')) : x = .ok a ∧ s' = s := by
  cases x with
  | ok b =>
    cases h
    exact ⟨rfl, rfl⟩
  | error e => cases h

/-- What is asked is told as it comes out, or ends the command. -/
theorem run_ask (call : Connection.Call (Shell σ) α) (s : Shell σ) :
    (ask call).run s = ((call s).1.mapError clientStop, (call s).2) :=
  rfl

theorem run_configOf {w : Surroundings σ} {place : Files.Path} {o : ScanConfig.Overrides}
    {config : ScanConfig} {s : Shell σ}
    (h : ScanConfig.resolve w.registry s.tree place o = .ok config) :
    (w.configOf place o).run s = (.ok config, s) := by
  rw [Surroundings.configOf, run_bind_of_ok (run_get s), h]
  rfl

end Run

/-- The shells before and after an action are in a relation, whatever the action comes to. -/
def Moves (R : Shell σ → Shell σ → Prop) (m : Act σ α) : Prop :=
  ∀ s, R s (m.run s).2

/-- The file tree, the server and the requests are the same. -/
structure Same (s s' : Shell σ) : Prop where
  tree : s'.tree = s.tree
  server : s'.server = s.server
  requests : s'.requests = s.requests

/-- A relation that what is the same is in, and that steps can be joined in. -/
structure Lasting (R : Shell σ → Shell σ → Prop) : Prop where
  same : ∀ {s s'}, Same s s' → R s s'
  trans : ∀ {s₁ s₂ s₃}, R s₁ s₂ → R s₂ s₃ → R s₁ s₃

theorem Same.refl (s : Shell σ) : Same s s :=
  ⟨rfl, rfl, rfl⟩

theorem Same.lasting : Lasting (Same (σ := σ)) where
  same := id
  trans h h' :=
    ⟨h'.tree.trans h.tree, h'.server.trans h.server, h'.requests.trans h.requests⟩

namespace Moves

variable {R : Shell σ → Shell σ → Prop}

theorem bind (hR : Lasting R) {m : Act σ α} {f : α → Act σ β} (hm : Moves R m)
    (hf : ∀ a, Moves R (f a)) : Moves R (m >>= f) := by
  intro s
  have hfirst := hm s
  rcases hrun : m.run s with ⟨stop | a, s'⟩ <;> rw [hrun] at hfirst
  · rw [run_bind_of_error hrun]
    exact hfirst
  · rw [run_bind_of_ok hrun]
    exact hR.trans hfirst (hf a s')

/-- What is read from the shell is read from the one before the action. -/
theorem get_bind {f : Shell σ → Act σ β} (hf : ∀ s, R s ((f s).run s).2) :
    Moves R (get >>= f) := by
  intro s
  rw [run_bind_of_ok (run_get s)]
  exact hf s

theorem of_run {m : Act σ α} (hm : Moves R m) {s s' : Shell σ} {x : Except Stop α}
    (h : m.run s = (x, s')) : R s s' := by
  have hrun := hm s
  rw [h] at hrun
  exact hrun

theorem of_same (hR : Lasting R) {m : Act σ α} (hm : Moves Same m) : Moves R m :=
  fun s => hR.same (hm s)

end Moves

section Steps

theorem same_pure (a : α) : Moves Same (pure a : Act σ α) :=
  Same.refl

theorem same_throw (stop : Stop) : Moves Same (throw stop : Act σ α) :=
  Same.refl

theorem same_say (line : String) : Moves Same (say line : Act σ Unit) :=
  fun _ => ⟨rfl, rfl, rfl⟩

theorem same_complain (line : String) : Moves Same (complain line : Act σ Unit) :=
  fun _ => ⟨rfl, rfl, rfl⟩

theorem same_orStop {ε : Type} (stop : ε → Stop) (x : Except ε α) :
    Moves Same (orStop stop x : Act σ α) := by
  cases x with
  | ok a => exact same_pure a
  | error e => exact same_throw (stop e)

theorem same_confirm (question : String) : Moves Same (confirm question : Act σ Bool) := by
  intro s
  have hset : ∀ (input : List String) (output : String), Same s { s with input, output } :=
    fun _ _ => ⟨rfl, rfl, rfl⟩
  rw [confirm, run_bind_of_ok (run_get s)]
  rcases answerFrom (question ++ " [y/N]:") s.input with ⟨answer | answer, shown, input⟩
  · exact hset input _
  · exact hset input _

theorem same_configOf (w : Surroundings σ) (place : Files.Path) (o : ScanConfig.Overrides) :
    Moves Same (w.configOf place o) :=
  Moves.get_bind fun s => same_orStop _ _ s

/-- A connection is made without a request. -/
theorem connect_run (w : Surroundings σ) (v : Toml.Value) (s : Shell σ) :
    (∃ address, (w.connect v).run s = (.ok ⟨address, w.transport⟩, s)) ∨
      ∃ stop, (w.connect v).run s = (.error stop, s) := by
  unfold Surroundings.connect
  split
  · exact .inl ⟨_, rfl⟩
  · split
    · exact .inr ⟨_, rfl⟩
    · exact .inl ⟨_, rfl⟩

end Steps

end CodeTwins.Command
