import MessageProxy.Endpoint.Basic

/-!
Running actions that may fail and keep a state.

The outcome and the last state of an action are read off its run. `Keeps P action` says that the
action keeps a property of the state, whether it succeeds or fails; it is proved along the structure
of the action.
-/

namespace MessageProxy

variable {ε σ α β : Type}

@[simp]
theorem run_bind (action : ExceptT ε (StateM σ) α) (next : α → ExceptT ε (StateM σ) β)
    (state : σ) :
    (action >>= next).run state = match action.run state with
      | (.ok value, state) => (next value).run state
      | (.error failure, state) => (.error failure, state) := by
  change (match action state with
    | (outcome, state) => ExceptT.bindCont next outcome state) = match action state with
      | (.ok value, state) => (next value).run state
      | (.error failure, state) => (.error failure, state)
  rcases action state with ⟨_ | _, _⟩ <;> rfl

@[simp]
theorem run_pure (value : α) (state : σ) :
    (pure value : ExceptT ε (StateM σ) α).run state = (.ok value, state) :=
  rfl

@[simp]
theorem run_throw (failure : ε) (state : σ) :
    (throw failure : ExceptT ε (StateM σ) α).run state = (.error failure, state) :=
  rfl

@[simp]
theorem run_get (state : σ) :
    (get : ExceptT ε (StateM σ) σ).run state = (.ok state, state) :=
  rfl

@[simp]
theorem run_modify (change : σ → σ) (state : σ) :
    (modify change : ExceptT ε (StateM σ) PUnit).run state = (.ok ⟨⟩, change state) :=
  rfl

@[simp]
theorem run_map (change : α → β) (action : ExceptT ε (StateM σ) α) (state : σ) :
    (change <$> action).run state = ((action.run state).1.map change, (action.run state).2) := by
  rw [← bind_pure_comp, run_bind]
  rcases action.run state with ⟨_ | _, _⟩ <;> rfl

@[simp]
theorem run_observing (action : ExceptT ε (StateM σ) α) (state : σ) :
    (observing action).run state = (.ok (action.run state).1, (action.run state).2) := by
  dsimp only [observing, tryCatch, tryCatchThe, MonadExceptOf.tryCatch, ExceptT.tryCatch,
    ExceptT.run, ExceptT.mk, bind, ExceptT.bind, ExceptT.bindCont, StateT.bind, Pure.pure,
    ExceptT.pure, StateT.pure]
  rcases action state with ⟨_ | _, _⟩ <;> rfl

/-- A client with state of its own goes on with both states as an action that succeeds left them. -/
theorem run_bind_own {τ : Type} (action : ExceptT ε (StateT τ (StateM σ)) α)
    (next : α → ExceptT ε (StateT τ (StateM σ)) β) (own : τ) (state : σ) :
    (action >>= next).run own state = match action.run own state with
      | ((.ok value, own), state) => (next value).run own state
      | ((.error failure, own), state) => ((.error failure, own), state) := by
  change (match action.run own state with
    | ((outcome, own), state) => (ExceptT.bindCont next outcome own) state) =
      match action.run own state with
      | ((.ok value, own), state) => (next value).run own state
      | ((.error failure, own), state) => ((.error failure, own), state)
  rcases action.run own state with ⟨⟨_ | _, _⟩, _⟩ <;> rfl

/-- What follows an action that cannot fail goes on with the state that it left. -/
theorem bind_state (action : StateM σ α) (next : α → StateM σ β) (state : σ) :
    (action >>= next) state = next (action state).1 (action state).2 :=
  rfl

/-- A client with state of its own goes on with both states as an action left them. -/
theorem bind_own {τ : Type} (action : StateT τ (StateM σ) α)
    (next : α → StateT τ (StateM σ) β) (own : τ) (state : σ) :
    (action >>= next) own state =
      next (action own state).1.1 (action own state).1.2 (action own state).2 :=
  rfl

theorem lift_own {τ : Type} (action : StateM σ α) (own : τ) (state : σ) :
    (liftM action : StateT τ (StateM σ) α) own state =
      (((action state).1, own), (action state).2) :=
  rfl

/-- The action keeps `P`, whatever its outcome is. -/
def Keeps (P : σ → Prop) (action : ExceptT ε (StateM σ) α) : Prop :=
  ∀ state, P state → P (action.run state).2

namespace Keeps

variable {P : σ → Prop}

theorem pure (value : α) : Keeps P (pure value : ExceptT ε (StateM σ) α) :=
  fun _ hstate => hstate

theorem throw (failure : ε) : Keeps P (throw failure : ExceptT ε (StateM σ) α) :=
  fun _ hstate => hstate

theorem bind {action : ExceptT ε (StateM σ) α} {next : α → ExceptT ε (StateM σ) β}
    (haction : Keeps P action) (hnext : ∀ value, Keeps P (next value)) :
    Keeps P (action >>= next) := by
  intro state hstate
  have hmiddle := haction state hstate
  rw [run_bind]
  rcases hrun : action.run state with ⟨failure | value, middle⟩
  · simpa only [hrun] using hmiddle
  · rw [hrun] at hmiddle
    exact hnext value middle hmiddle

theorem map (change : α → β) {action : ExceptT ε (StateM σ) α} (haction : Keeps P action) :
    Keeps P (change <$> action) := by
  intro state hstate
  rw [run_map]
  exact haction state hstate

theorem observing {action : ExceptT ε (StateM σ) α} (haction : Keeps P action) :
    Keeps P (observing action) := by
  intro state hstate
  rw [run_observing]
  exact haction state hstate

theorem ite {condition : Prop} [Decidable condition] {first second : ExceptT ε (StateM σ) α}
    (hfirst : Keeps P first) (hsecond : Keeps P second) :
    Keeps P (if condition then first else second) := by
  split
  · exact hfirst
  · exact hsecond

/-- The rest of an action comes after the first part or without it. -/
theorem ite_bind {condition : Prop} [Decidable condition] {first : ExceptT ε (StateM σ) PUnit}
    {rest : ExceptT ε (StateM σ) α} (hfirst : Keeps P first) (hrest : Keeps P rest) :
    Keeps P (if condition then first >>= fun _ => rest else rest) :=
  .ite (.bind hfirst fun _ => hrest) hrest

end Keeps

end MessageProxy
