import MessageProxy.Proofs.Endpoint.Effect
import MessageProxy.Ras.Client

/-!
Running the actions of a client: the outcome, the client and the endpoint afterwards.
-/

namespace MessageProxy.Ras

variable {σ α β : Type}

/-- What an action of a client comes to. -/
def conduct (action : ClientAction σ α) (client : Client σ) (endpoint : Endpoint σ) :
    (Except Fault α × Client σ) × Endpoint σ :=
  (action.run client) endpoint

variable (client : Client σ) (endpoint : Endpoint σ)

@[simp]
theorem conduct_bind (action : ClientAction σ α) (next : α → ClientAction σ β) :
    conduct (action >>= next) client endpoint = match conduct action client endpoint with
      | ((.ok value, client), endpoint) => conduct (next value) client endpoint
      | ((.error fault, client), endpoint) => ((.error fault, client), endpoint) := by
  unfold conduct
  rw [run_bind_own]
  rcases action.run client endpoint with ⟨⟨_ | _, _⟩, _⟩ <;> rfl

@[simp]
theorem conduct_pure (value : α) :
    conduct (pure value) client endpoint = ((.ok value, client), endpoint) :=
  rfl

@[simp]
theorem conduct_throw (fault : Fault) :
    conduct (throw fault : ClientAction σ α) client endpoint = ((.error fault, client), endpoint) :=
  rfl

@[simp]
theorem conduct_get : conduct get client endpoint = ((.ok client, client), endpoint) :=
  rfl

@[simp]
theorem conduct_set (next : Client σ) :
    conduct (set next) client endpoint = ((.ok ⟨⟩, next), endpoint) :=
  rfl

@[simp]
theorem conduct_modify (change : Client σ → Client σ) :
    conduct (modify change) client endpoint = ((.ok ⟨⟩, change client), endpoint) :=
  rfl

/-- An action of the endpoint leaves the client alone. -/
@[simp]
theorem conduct_lift (action : Action σ α) :
    conduct (liftM action) client endpoint =
      (((action.run endpoint).1, client), (action.run endpoint).2) :=
  rfl

@[simp]
theorem conduct_observing (action : ClientAction σ α) :
    conduct (observing action) client endpoint =
      ((.ok (conduct action client endpoint).1.1, (conduct action client endpoint).1.2),
        (conduct action client endpoint).2) := by
  unfold conduct
  dsimp only [observing, tryCatch, tryCatchThe, MonadExceptOf.tryCatch, ExceptT.tryCatch,
    ExceptT.run, ExceptT.mk, bind, ExceptT.bind, ExceptT.bindCont, StateT.bind, Pure.pure,
    ExceptT.pure, StateT.pure]
  rcases action client endpoint with ⟨⟨_ | _, _⟩, _⟩ <;> rfl

@[simp]
theorem conduct_note (notice : Notice) :
    conduct (note notice) client endpoint =
      ((.ok (), client), { endpoint with world := endpoint.world.noted notice }) :=
  rfl

@[simp]
theorem conduct_refuse (reason : Refusal) :
    conduct (refuse reason : ClientAction σ α) client endpoint =
      ((.error reason.fault, client),
        { endpoint with world := endpoint.world.noted (.refused reason) }) :=
  rfl

@[simp]
theorem conduct_accept_ok (value : α) :
    conduct (accept (.ok value)) client endpoint = ((.ok value, client), endpoint) :=
  rfl

@[simp]
theorem conduct_accept_error (reason : Refusal) :
    conduct (accept (.error reason) : ClientAction σ α) client endpoint =
      ((.error reason.fault, client),
        { endpoint with world := endpoint.world.noted (.refused reason) }) :=
  rfl

namespace Client

/-- Entering a stage changes the client's stage, and logs a line or two. -/
theorem conduct_enter (stage : Stage) :
    ∃ world, conduct (enter stage) client endpoint =
        ((.ok (), { client with stage }), { endpoint with world }) ∧
      endpoint.world.Matches world := by
  have hentered := (World.Matches.refl endpoint.world).noted (.entered client.stage stage)
  unfold enter
  by_cases hready : stage = .ready
  · simp only [conduct_bind, conduct_get, conduct_note, conduct_set, if_pos hready]
    exact ⟨_, rfl, hentered.noted _⟩
  · simp only [conduct_bind, conduct_get, conduct_note, conduct_set, if_neg hready, conduct_pure]
    exact ⟨_, rfl, hentered⟩

theorem conduct_finish (delivery : Delivery σ) :
    ∃ world, conduct (finish delivery) client endpoint =
        ((.ok (), { client with delivery := some delivery, stage := .ready }),
          { endpoint with world }) ∧
      endpoint.world.Matches world := by
  unfold finish
  simp only [conduct_bind, conduct_modify]
  exact conduct_enter { client with delivery := some delivery } endpoint .ready

end Client

end MessageProxy.Ras
