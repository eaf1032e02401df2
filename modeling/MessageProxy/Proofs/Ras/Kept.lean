import MessageProxy.Proofs.Ras.Query

/-!
What the actions of a client keep on its endpoint.

Apart from what an exchange does, and from setting a channel up, a client only logs. A property that
logging keeps is therefore kept by all that a client does, once exchanges keep it.
-/

namespace MessageProxy.Ras

variable {σ α β : Type} {platform : Platform σ} {P : Endpoint σ → Prop}

/-- Whatever the client, the action keeps `P` on its endpoint. -/
def KeepsEndpoint (P : Endpoint σ → Prop) (action : ClientAction σ α) : Prop :=
  ∀ client endpoint, P endpoint → P (conduct action client endpoint).2

namespace KeepsEndpoint

theorem pure (value : α) : KeepsEndpoint P (pure value : ClientAction σ α) :=
  fun _ _ hendpoint => hendpoint

theorem throw (fault : Fault) : KeepsEndpoint P (throw fault : ClientAction σ α) :=
  fun _ _ hendpoint => hendpoint

theorem get : KeepsEndpoint P (get : ClientAction σ (Client σ)) :=
  fun _ _ hendpoint => hendpoint

theorem set (client : Client σ) : KeepsEndpoint P (set client : ClientAction σ PUnit) :=
  fun _ _ hendpoint => hendpoint

theorem modify (change : Client σ → Client σ) :
    KeepsEndpoint P (modify change : ClientAction σ PUnit) :=
  fun _ _ hendpoint => hendpoint

theorem lift {action : Action σ α} (haction : Keeps P action) :
    KeepsEndpoint P (liftM action : ClientAction σ α) :=
  fun _ endpoint hendpoint => haction endpoint hendpoint

theorem observing {action : ClientAction σ α} (haction : KeepsEndpoint P action) :
    KeepsEndpoint P (observing action) := by
  intro client endpoint hendpoint
  rw [conduct_observing]
  exact haction client endpoint hendpoint

theorem bind {action : ClientAction σ α} {next : α → ClientAction σ β}
    (haction : KeepsEndpoint P action) (hnext : ∀ value, KeepsEndpoint P (next value)) :
    KeepsEndpoint P (action >>= next) := by
  intro client endpoint hendpoint
  have hfirst := haction client endpoint hendpoint
  rw [conduct_bind]
  rcases hrun : conduct action client endpoint with ⟨⟨fault | value, middle⟩, between⟩
  · rw [hrun] at hfirst
    exact hfirst
  · rw [hrun] at hfirst
    exact hnext value middle between hfirst

end KeepsEndpoint

namespace Client

variable (hnoted : ∀ endpoint notice, P endpoint →
  P { endpoint with world := endpoint.world.noted notice })
include hnoted

theorem keeps_note (notice : Notice) : KeepsEndpoint P (note notice : ClientAction σ Unit) :=
  fun _ endpoint hendpoint => hnoted endpoint notice hendpoint

theorem keeps_refuse (reason : Refusal) :
    KeepsEndpoint P (refuse reason : ClientAction σ α) :=
  .bind (keeps_note hnoted _) fun _ => .throw _

theorem keeps_accept (outcome : Except Refusal α) :
    KeepsEndpoint P (accept outcome : ClientAction σ α) := by
  cases outcome with
  | ok value => exact .pure value
  | error reason => exact keeps_refuse hnoted reason

theorem keeps_enter (stage : Stage) : KeepsEndpoint P (enter stage : ClientAction σ Unit) := by
  refine .bind .get fun client => .bind (keeps_note hnoted _) fun _ => .bind (.set _) fun _ => ?_
  split
  · exact keeps_note hnoted _
  · exact .pure _

theorem keeps_finish (delivery : Delivery σ) : KeepsEndpoint P (finish delivery) :=
  .bind (.modify _) fun _ => keeps_enter hnoted _

/-- What a query does to the endpoint is what the exchange of the client's delivery does, and to
log. -/
theorem keeps_query {client : Client σ}
    (hexchange : ∀ delivery, client.delivery = some delivery → ∀ service request capacity,
      Keeps P (delivery.exchange platform service request capacity))
    (query : Query) {endpoint : Endpoint σ} (hendpoint : P endpoint) :
    P (conduct (query.move.perform platform) client endpoint).2 := by
  rw [conduct_move]
  by_cases hready : client.stage = .ready
  · cases hdelivery : client.delivery with
    | none =>
      rw [conduct_bind, request, conduct_bind, conduct_get]
      dsimp only
      rw [hready, hdelivery]
      exact hendpoint
    | some delivery =>
      rw [conduct_bind, conduct_request hready hdelivery, ← conduct_bind]
      refine KeepsEndpoint.bind (.bind (.lift (hexchange delivery hdelivery _ _ _))
        fun response => ?_) (fun reply => keeps_accept hnoted _) _ _ hendpoint
      exact .bind (keeps_accept hnoted _) fun reply => .bind (keeps_note hnoted _)
        fun _ => .bind (keeps_accept hnoted _) fun _ => .pure _
  · rw [conduct_bind, conduct_request_of_ne hready]
    exact hendpoint

end Client

end MessageProxy.Ras
