import MessageProxy.Proofs.Ras.Establish

/-!
What is done to a client or, by others, to its endpoint, as data, so that a sequence of it is a
list.
-/

namespace MessageProxy.Ras

variable {σ α β : Type} {platform : Platform σ}

/-- The action keeps everything about a client but its tokens. -/
def SpendsTokens (action : ClientAction σ α) : Prop :=
  ∀ client endpoint, ∃ tokens, (conduct action client endpoint).1.2 = { client with tokens }

namespace SpendsTokens

theorem pure (value : α) : SpendsTokens (pure value : ClientAction σ α) :=
  fun client _ => ⟨client.tokens, rfl⟩

theorem throw (fault : Fault) : SpendsTokens (throw fault : ClientAction σ α) :=
  fun client _ => ⟨client.tokens, rfl⟩

theorem lift (action : Action σ α) : SpendsTokens (liftM action : ClientAction σ α) :=
  fun client _ => ⟨client.tokens, rfl⟩

theorem note (notice : Notice) : SpendsTokens (note notice : ClientAction σ Unit) :=
  fun client _ => ⟨client.tokens, rfl⟩

theorem bind {action : ClientAction σ α} {next : α → ClientAction σ β}
    (haction : SpendsTokens action) (hnext : ∀ value, SpendsTokens (next value)) :
    SpendsTokens (action >>= next) := by
  intro client endpoint
  obtain ⟨tokens, hfirst⟩ := haction client endpoint
  rw [conduct_bind]
  rcases hrun : conduct action client endpoint with ⟨⟨fault | value, middle⟩, between⟩
  · rw [hrun] at hfirst
    exact ⟨tokens, hfirst⟩
  · rw [hrun] at hfirst
    obtain ⟨left, hsecond⟩ := hnext value middle between
    refine ⟨left, hsecond.trans ?_⟩
    rw [show middle = { client with tokens } from hfirst]

theorem accept (outcome : Except Refusal α) : SpendsTokens (accept outcome : ClientAction σ α) := by
  cases outcome with
  | ok value => exact .pure value
  | error reason => exact .bind (.note _) fun _ => .throw _

end SpendsTokens

namespace Client

/-- A request spends a token at most. -/
theorem spendsTokens_request (platform : Platform σ) (service : UInt8) (data : Bytes)
    (capacity : Nat) : SpendsTokens (request platform service data capacity) := by
  have htake : SpendsTokens (takeToken : ClientAction σ UInt16) :=
    fun client _ => ⟨client.tokens.take.2, rfl⟩
  refine .bind (fun client _ => ⟨client.tokens, rfl⟩) fun client => ?_
  split
  · refine .bind htake fun token => ?_
    dsimp only
    split
    · exact .throw _
    · refine .bind (.lift _) fun response => .bind (.accept _) fun reply => ?_
      exact .bind (.note _) fun _ => .bind (.accept _) fun _ => .pure _
  · exact .throw _

/-- A request of a session that is not ready fails, and does nothing. -/
theorem conduct_request_of_ne {client : Client σ} (hstage : client.stage ≠ .ready)
    (platform : Platform σ) (service : UInt8) (data : Bytes) (capacity : Nat)
    (endpoint : Endpoint σ) :
    conduct (request platform service data capacity) client endpoint =
      ((.error .notReady, client), endpoint) := by
  unfold request
  rw [conduct_bind, conduct_get]
  dsimp only
  split
  · rename_i hready _
    exact absurd hready hstage
  · exact conduct_throw client endpoint .notReady

end Client

/-- Something that is done to a client or, by others, to its endpoint. -/
inductive Move (σ : Type) where
  | establish (budget : Nat)
  | sourceCount
  | sourceIds
  | sourceDescriptor (source : UInt32)
  | disturb (change : Endpoint σ → Endpoint σ)

/-- What a move that succeeds returns. -/
inductive Result where
  | established (ready : Bool)
  | count (count : UInt32)
  | ids (ids : List UInt32)
  | descriptor (descriptor : SourceDescriptor)
  | disturbed

namespace Move

/-- Whether a move sends a request. -/
def isRequest : Move σ → Bool
  | establish _ | disturb _ => false
  | sourceCount | sourceIds | sourceDescriptor _ => true

/-- Carries a move out. -/
def perform (platform : Platform σ) : Move σ → ClientAction σ Result
  | establish budget => do return .established (← Client.establish platform budget)
  | sourceCount => do return .count (← Client.sourceCount platform)
  | sourceIds => do return .ids (← Client.sourceIds platform)
  | sourceDescriptor source => do return .descriptor (← Client.sourceDescriptor platform source)
  | disturb change => do
    (modify change : Action σ Unit)
    return .disturbed

end Move

/-- A client and its endpoint. -/
structure Session (σ : Type) where
  client : Client σ
  endpoint : Endpoint σ

namespace Session

/-- What a move returns. -/
def outcome (platform : Platform σ) (session : Session σ) (move : Move σ) : Except Fault Result :=
  (conduct (move.perform platform) session.client session.endpoint).1.1

/-- The session after a move. -/
def after (platform : Platform σ) (session : Session σ) (move : Move σ) : Session σ :=
  { client := (conduct (move.perform platform) session.client session.endpoint).1.2
    endpoint := (conduct (move.perform platform) session.client session.endpoint).2 }

/-- The session after a sequence of moves. -/
def afterAll (platform : Platform σ) (session : Session σ) (moves : List (Move σ)) : Session σ :=
  moves.foldl (after platform) session

theorem afterAll_append (platform : Platform σ) (session : Session σ)
    (first second : List (Move σ)) :
    session.afterAll platform (first ++ second) =
      (session.afterAll platform first).afterAll platform second :=
  List.foldl_append

end Session

theorem conduct_establish (platform : Platform σ) (budget : Nat) (client : Client σ)
    (endpoint : Endpoint σ) :
    conduct ((Move.establish budget).perform platform) client endpoint =
      (((conduct (Client.establish platform budget) client endpoint).1.1.map .established,
        (conduct (Client.establish platform budget) client endpoint).1.2),
        (conduct (Client.establish platform budget) client endpoint).2) := by
  unfold Move.perform
  rw [conduct_bind]
  rcases conduct (Client.establish platform budget) client endpoint with ⟨⟨_ | _, _⟩, _⟩ <;> rfl

/-- A move that sends a request spends a token at most. -/
theorem spendsTokens_perform (platform : Platform σ) {move : Move σ}
    (hrequest : move.isRequest = true) : SpendsTokens (move.perform platform) := by
  cases move with
  | establish | disturb => cases hrequest
  | sourceCount | sourceIds | sourceDescriptor =>
    exact .bind (.bind (Client.spendsTokens_request _ _ _ _) fun _ => .accept _) fun _ => .pure _

theorem conduct_perform_of_ne (platform : Platform σ) {move : Move σ}
    (hrequest : move.isRequest = true) {client : Client σ} (hstage : client.stage ≠ .ready)
    (endpoint : Endpoint σ) :
    conduct (move.perform platform) client endpoint = ((.error .notReady, client), endpoint) := by
  cases move with
  | establish | disturb => cases hrequest
  | sourceCount =>
    rw [Move.perform, conduct_bind, Client.sourceCount, conduct_bind,
      Client.conduct_request_of_ne hstage]
  | sourceIds =>
    rw [Move.perform, conduct_bind, Client.sourceIds, conduct_bind,
      Client.conduct_request_of_ne hstage]
  | sourceDescriptor source =>
    rw [Move.perform, conduct_bind, Client.sourceDescriptor, conduct_bind,
      Client.conduct_request_of_ne hstage]

end MessageProxy.Ras
